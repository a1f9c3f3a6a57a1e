import QueryGate.Proofs.Service.Lookup
import QueryGate.Service.Resource
/-! The course of a call for a resource. A path that is unknown or incomplete sends nothing; any other sends
the one statement of its lookup and gives its names, or a failure that tells what went wrong. -/

namespace QueryGate

variable {σ : Type}

/-- The first of the parameters that is given and not empty. -/
def Parameters.firstFilled (p : Parameters) (names : List String) (default : String) : String :=
  (names.findSome? p.filled?).getD default

/-- The lookup that a path asks for. A schema may be called a database. -/
def resourceLookup? (defaultCatalog path : String) (p : Parameters) : Option Lookup :=
  let catalog := p.firstFilled ["catalog"] defaultCatalog
  let schema := p.firstFilled ["schema", "database"] ""
  let table := p.firstFilled ["table"] ""
  let name := resourceName path
  if name = "schemas" ∨ name = "databases" then some (.schemas catalog)
  else if name = "tables" then some (.tables catalog schema)
  else if name = "columns" then some (.columns catalog schema table)
  else none

theorem ResourceKind.ofName?_eq (name : String) : ResourceKind.ofName? name =
    if name = "schemas" ∨ name = "databases" then some .schemas
    else if name = "tables" then some .tables
    else if name = "columns" then some .columns
    else none := by
  unfold ofName?
  split <;> simp_all

/-- What becomes of the names that were found. A schema without tables counts as missing. -/
def Lookup.answer (l : Lookup) (names : List String) : Except Failure (List String) :=
  match l with
  | .tables catalog schema =>
    if names.isEmpty then .error ⟨.notFound, "No tables found in " ++ catalog ++ "." ++ schema, none⟩
    else .ok names
  | _ => .ok names

theorem callResource_eq (handle : Handle σ) (timeout : Amount) (defaultCatalog path : String)
    (p : Parameters) : callResource handle timeout defaultCatalog path p =
      match resourceLookup? defaultCatalog path p with
      | some l => (do
        let names ← l.run handle timeout
        Act.given ((l.answer names).mapError .failure))
      | none => (do
        Act.log .warning resourceLogger ("Unknown resource path: " ++ resourceName path)
        Act.fail .notFound "Invalid endpoint") := by
  have hcatalog : p.firstFilled ["catalog"] defaultCatalog = (p.filled? "catalog").getD defaultCatalog := by
    cases hc : p.filled? "catalog" <;> simp [Parameters.firstFilled, hc]
  have hschema : p.firstFilled ["schema", "database"] "" =
      ((p.filled? "schema").orElse fun () => p.filled? "database").getD "" := by
    cases hs : p.filled? "schema" <;> cases hd : p.filled? "database" <;>
      simp [Parameters.firstFilled, hs, hd]
  have htable : p.firstFilled ["table"] "" = (p.filled? "table").getD "" := by
    cases ht : p.filled? "table" <;> simp [Parameters.firstFilled, ht]
  unfold callResource resourceLookup?
  rw [hcatalog, hschema, htable]
  dsimp only
  rw [ResourceKind.ofName?_eq]
  have hgiven : ∀ call : Act σ (List String), call = (do
      let names ← call
      Act.given (.ok names)) := fun call => (bind_pure call).symm
  split_ifs
  · exact hgiven _
  · refine congrArg (fun f => listTables handle timeout _ _ >>= f) (funext fun tables => ?_)
    simp only [Lookup.answer]
    split <;> rfl
  · exact hgiven _
  · rfl

theorem Lookup.outcome_run_of_missing {l : Lookup} {part : PathPart} (h : l.missing? = some part)
    (handle : Handle σ) (timeout : Amount) (s : Session σ) :
    (l.run handle timeout).outcome s = (.error (.failure part.failure), s) := by
  obtain ⟨⟨found, name⟩, hfind, rfl⟩ := Option.map_eq_some_iff.mp h
  rw [l.run_eq, requireParts_eq, hfind, Act.outcome_bind]
  rfl

theorem Lookup.run_of_complete {l : Lookup} (h : l.missing? = none) (handle : Handle σ)
    (timeout : Amount) : l.run handle timeout = lookUp handle timeout l.statement l.pick := by
  rw [l.run_eq, requireParts_eq, Option.map_eq_none_iff.mp h]
  rfl

/-- How a call for a resource ends, with all that it asked of the handle and of the cursor. -/
inductive ResourceEnds (handle : Handle σ) (timeout : Amount) (defaultCatalog path : String)
    (p : Parameters) (before : Session σ) : List Demand → Except Failure (List String) → Prop
  | unknown (h : resourceLookup? defaultCatalog path p = none) :
    ResourceEnds handle timeout defaultCatalog path p before [] (.error ⟨.notFound, "Invalid endpoint", none⟩)
  | incomplete {l : Lookup} {part : PathPart} (h : resourceLookup? defaultCatalog path p = some l)
    (hpart : l.missing? = some part) :
    ResourceEnds handle timeout defaultCatalog path p before [] (.error part.failure)
  | failed {l : Lookup} {demands : List Demand} {r : Raised}
    (h : resourceLookup? defaultCatalog path p = some l) (hpart : l.missing? = none)
    (hsent : l.Sent handle timeout before demands (.error r)) :
    ResourceEnds handle timeout defaultCatalog path p before demands (.error (lookupError l.statement r))
  | noTables {catalog schema : String} {demands : List Demand}
    (h : resourceLookup? defaultCatalog path p = some (.tables catalog schema))
    (hpart : (Lookup.tables catalog schema).missing? = none)
    (hsent : (Lookup.tables catalog schema).Sent handle timeout before demands (.ok [])) :
    ResourceEnds handle timeout defaultCatalog path p before demands
      (.error ⟨.notFound, "No tables found in " ++ catalog ++ "." ++ schema, none⟩)
  | found {l : Lookup} {demands : List Demand} {names : List String}
    (h : resourceLookup? defaultCatalog path p = some l) (hpart : l.missing? = none)
    (hsent : l.Sent handle timeout before demands (.ok names))
    (hnames : ∀ catalog schema, l = .tables catalog schema → names ≠ []) :
    ResourceEnds handle timeout defaultCatalog path p before demands (.ok names)

theorem resourceEnds_answer {handle : Handle σ} {timeout : Amount} {defaultCatalog path : String}
    {p : Parameters} {before : Session σ} {l : Lookup} {demands : List Demand} {names : List String}
    (h : resourceLookup? defaultCatalog path p = some l) (hpart : l.missing? = none)
    (hsent : l.Sent handle timeout before demands (.ok names)) :
    ResourceEnds handle timeout defaultCatalog path p before demands (l.answer names) := by
  cases l with
  | schemas catalog => exact .found h hpart hsent nofun
  | columns catalog schema table => exact .found h hpart hsent nofun
  | tables catalog schema =>
    cases names with
    | nil => exact .noTables h hpart hsent
    | cons name rest => exact .found h hpart hsent fun _ _ _ => List.cons_ne_nil name rest

/-- A call for a resource sends nothing, or one statement whose cursor is read and closed once. It ends in
the names or in a failure, as it does when nothing is counted. -/
theorem callResource_ends (handle : Handle σ) (timeout : Amount) (defaultCatalog path : String)
    (p : Parameters) (s : Session (σ × List Demand)) : ∃ demands result after,
      (callResource handle timeout defaultCatalog path p).outcome s.bare =
        (result.mapError .failure, after) ∧
      (callResource handle.demanded timeout defaultCatalog path p).outcome s =
        (result.mapError .failure, after.withDemands (s.outside.2 ++ demands)) ∧
      ResourceEnds handle timeout defaultCatalog path p s.bare demands result := by
  rw [callResource_eq, callResource_eq]
  -- Nothing is asked before the path is known and all its names are there.
  cases hlookup : resourceLookup? defaultCatalog path p with
  | none =>
    refine ⟨[], _, { s.bare with log := s.log ++ [⟨.warning, resourceLogger,
      "Unknown resource path: " ++ resourceName path, s.trace⟩] }, ?_, ?_, .unknown hlookup⟩
    · rfl
    · rw [List.append_nil]
      rfl
  | some l =>
    cases hpart : l.missing? with
    | some part =>
      refine ⟨[], _, s.bare, ?_, ?_, .incomplete hlookup hpart⟩
      · simp only [Act.outcome_bind, Lookup.outcome_run_of_missing hpart]
        rfl
      · simp only [Act.outcome_bind, Lookup.outcome_run_of_missing hpart]
        rw [List.append_nil]
        rfl
    | none =>
      obtain ⟨demands, result, after, hplain, hcounted, hsent⟩ := l.send_demanded handle timeout s
      simp only [Act.outcome_bind, Lookup.run_of_complete hpart, outcome_lookUp handle timeout l hplain,
        outcome_lookUp handle.demanded timeout l hcounted]
      cases result with
      | error r => exact ⟨demands, _, _, rfl, rfl, .failed hlookup hpart hsent⟩
      | ok names =>
        refine ⟨demands, l.answer names, after, ?_, ?_, resourceEnds_answer hlookup hpart hsent⟩ <;>
          simp [Except.mapError, lookupLines]

end QueryGate
