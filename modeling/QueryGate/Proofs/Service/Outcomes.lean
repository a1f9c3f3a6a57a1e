import QueryGate.Connection.Rehearsal
import QueryGate.Proofs.Service.Entries
import QueryGate.Proofs.Service.SentTexts
import QueryGate.Proofs.Text.Spacing
/-! What an entry of a batch tells. It is one frame, or a text on a single line with the status of a
failure. Only what a query crashes with is told as it was raised, line breaks and all. -/

namespace QueryGate

variable {σ : Type}

theorem ErrorCode.status_eq (c : ErrorCode) : c.status = 400 ∨ c.status = 404 ∨ c.status = 500 := by
  cases c <;> simp [status]

/-- One frame and no error, or no frame and an error on a single line. -/
inductive Response.IsPlain : Response → Prop
  | whole (frame : Frame) : IsPlain ⟨[frame], none, 200⟩
  | told {text : String} {status : Nat} (single : IsSingleLine text)
    (status_eq : status = 400 ∨ status = 404 ∨ status = 500) : IsPlain ⟨[], some text, status⟩

theorem failedResponse_isPlain (f : Failure) : (failedResponse f).IsPlain :=
  .told f.isSingleLine_safe f.code.status_eq

/-- The response to a query that crashes. -/
def crashedResponse (f : Fault) : Response :=
  ⟨[], some ("Internal error: " ++ f.message), 500⟩

theorem crashedResponse_isPlain_iff (f : Fault) :
    (crashedResponse f).IsPlain ↔ IsSingleLine f.message := by
  rw [← isSingleLine_append_right (s := "Internal error: ") (by decide)]
  constructor
  · rintro ⟨⟩
    assumption
  · exact fun h => .told h (.inr (.inr rfl))

/-- A raw query reads as a request that crashes with a fault when it is run. -/
def Json.CrashesWith (plan : ServicePlan) (handle : Handle σ) (raw : Json) (f : Fault) : Prop :=
  ∃ r s s', Request.read raw = .ok r ∧
    (executeQuery plan handle r).outcome s = (.error (.fault f), s')

/-- What a response to a raw query tells: only a message of more than one line makes it not plain. -/
inductive Json.Tells (plan : ServicePlan) (handle : Handle σ) (raw : Json) : Response → Prop
  | plain {response : Response} (h : response.IsPlain) : Tells plan handle raw response
  | lines {f : Fault} (h : ¬ IsSingleLine f.message) (hcrash : raw.CrashesWith plan handle f) :
    Tells plan handle raw (crashedResponse f)

theorem respond_tells {plan : ServicePlan} {handle : Handle σ} {key : String} {raw : Json} {r : Request}
    (hr : Request.read raw = .ok r) {s s' : Session σ} {response : Response}
    (h : (respond plan handle key r).outcome s = (.ok response, s')) :
    raw.Tells plan handle response := by
  rw [respond, Act.outcome_bind, Act.outcome_caught] at h
  rcases hrun : (executeQuery plan handle r).outcome s with ⟨(f | f) | frame, s₁⟩
  · simp only [hrun, Act.outcome_bind, Act.outcome_log, Act.outcome_pure] at h
    cases h
    exact .plain (failedResponse_isPlain f)
  · simp only [hrun, Act.outcome_bind, Act.outcome_log, Act.outcome_pure] at h
    cases h
    by_cases hline : IsSingleLine f.message
    · exact .plain ((crashedResponse_isPlain_iff f).mpr hline)
    · exact .lines hline ⟨r, s, s₁, hr, hrun⟩
  · simp only [hrun, Act.outcome_pure] at h
    cases h
    exact .plain (.whole frame)

theorem serveRaw_tells {plan : ServicePlan} {handle : Handle σ} {key : String} {raw : Json}
    {s s' : Session σ} {response : Response}
    (h : (serveRaw plan handle key raw).outcome s = (.ok (some response), s')) :
    raw.Tells plan handle response := by
  unfold serveRaw at h
  cases hr : Request.read raw with
  | wrong i more =>
    simp only [hr, Act.outcome_bind, Act.outcome_log, Act.outcome_pure] at h
    cases h
    exact .plain (failedResponse_isPlain _)
  | ok r =>
    simp only [hr] at h
    split at h
    · obtain ⟨found, s₁, hfound⟩ := (respond_neverRaises plan handle key r).outcome_eq s
      simp only [Act.outcome_bind, hfound, Act.outcome_pure] at h
      cases h
      exact respond_tells hr hfound
    · cases h

/-- Whatever holds of the entries so far and of each response holds of all entries in the end. -/
theorem serveBatch_entries {plan : ServicePlan} {handle : Handle σ} {queries : List Json}
    {P : Response → Prop}
    (hserve : ∀ raw ∈ queries, ∀ key s response s',
      (serveRaw plan handle key raw).outcome s = (.ok (some response), s') → P response)
    {index : Nat} {done results : Members Response} (hdone : ∀ entry ∈ done, P entry.2)
    {s s' : Session σ}
    (h : (serveBatch plan handle index done queries).outcome s = (.ok results, s')) :
    ∀ entry ∈ results, P entry.2 := by
  induction queries generalizing index done s with
  | nil =>
    cases h
    exact hdone
  | cons raw rest ih =>
    have hrest := fun other ho => hserve other (List.mem_cons_of_mem raw ho)
    cases hkey : queryKey index raw with
    | error f =>
      rw [serveBatch, hkey] at h
      cases h
    | ok key =>
      rw [serveBatch_cons hkey, Act.outcome_bind] at h
      obtain ⟨served, s₁, hserved⟩ := (serveRaw_neverRaises plan handle key raw).outcome_eq s
      rw [hserved] at h
      cases served with
      | none => exact ih hrest hdone h
      | some response =>
        refine ih hrest (fun entry hentry => ?_) h
        rcases Members.mem_of_mem_put hentry with hnew | hold
        · exact hnew ▸ hserve raw List.mem_cons_self key s response s₁ hserved
        · exact hdone entry hold

theorem serveBatch_neverRaises (plan : ServicePlan) (handle : Handle σ) {queries : List Json}
    (hshown : ∀ raw ∈ queries, raw.IsShown) (index : Nat) (done : Members Response) :
    (serveBatch plan handle index done queries).NeverRaises := by
  induction queries generalizing index done with
  | nil => exact Act.neverRaises_pure done
  | cons raw rest ih =>
    have hrest := fun other ho => hshown other (List.mem_cons_of_mem raw ho)
    obtain ⟨key, hkey⟩ := queryKey_of_isShown index (hshown raw List.mem_cons_self)
    rw [serveBatch_cons hkey]
    refine (serveRaw_neverRaises plan handle key raw).bind fun served => ?_
    cases served with
    | none => exact ih hrest _ _
    | some response => exact ih hrest _ _

/-- The entries of a batch are plain, but for those of queries that crashed with line breaks in the
message, and these are not. A batch that was written as JSON has its entries, whatever the handle does. -/
theorem queryData_tells (plan : ServicePlan) (handle : Handle σ) (queries : List Json)
    (s : Session σ) :
    (∀ results s', (queryData plan handle queries).outcome s = (.ok results, s') →
      ∀ entry ∈ results, ∃ raw ∈ queries, raw.Tells plan handle entry.2) ∧
    (∀ f : Fault, (crashedResponse f).IsPlain ↔ IsSingleLine f.message) ∧
    ((∀ raw ∈ queries, ∃ text, Json.read text = .ok raw) →
      ∃ results s', (queryData plan handle queries).outcome s = (.ok results, s')) := by
  refine ⟨fun results s' h => ?_, crashedResponse_isPlain_iff, fun hread => ?_⟩
  · exact serveBatch_entries (P := fun response => ∃ raw ∈ queries, raw.Tells plan handle response)
      (fun raw hraw _ _ _ _ hserved => ⟨raw, hraw, serveRaw_tells hserved⟩)
      (List.forall_mem_nil _) h
  · refine (serveBatch_neverRaises plan handle (fun raw hraw => ?_) 0 []).outcome_eq s
    obtain ⟨text, htext⟩ := hread raw hraw
    exact Json.read_isShown htext

theorem queryData_tells_mixed :
    let plan : ServicePlan := ⟨"main", 10, .whole 60, "NULL", defaultDenied⟩
    let handle := Rehearsal.handle ⟨fun count _ =>
      if count = 0 then .ok .empty else fault .runtime "gone", fun _ => .ok ()⟩
    ∃ served refused, Json.read "\x7b\"refId\":\"A\",\"queryText\":\"SELECT 1\"\x7d" = .ok served ∧
      Json.read "\x7b\"refId\":\"B\",\"queryText\":\"DROP TABLE t\"\x7d" = .ok refused ∧
      ∃ results s', (queryData plan handle [served, refused]).outcome (.start .empty) = (.ok results, s') ∧
        ∀ entry ∈ results, ∃ raw ∈ [served, refused], raw.Tells plan handle entry.2 := by
  intro plan handle
  have hdecoded : ∀ text, (Json.read text).toOption.isSome = true → ∃ j, Json.read text = .ok j := by
    intro text h
    cases hr : Json.read text with
    | ok j => exact ⟨j, rfl⟩
    | error e => simp [hr, Except.toOption] at h
  obtain ⟨served, hserved⟩ := hdecoded "\x7b\"refId\":\"A\",\"queryText\":\"SELECT 1\"\x7d"
    (by decide +kernel)
  obtain ⟨refused, hrefused⟩ := hdecoded "\x7b\"refId\":\"B\",\"queryText\":\"DROP TABLE t\"\x7d"
    (by decide +kernel)
  obtain ⟨htells, -, hgives⟩ := queryData_tells plan handle [served, refused] (.start .empty)
  obtain ⟨results, s', hrun⟩ := hgives
    (List.forall_mem_cons.mpr ⟨⟨_, hserved⟩, List.forall_mem_singleton.mpr ⟨_, hrefused⟩⟩)
  exact ⟨served, refused, hserved, hrefused, results, s', hrun, htells results s' hrun⟩

/-- A crash with two lines is told on two lines. -/
theorem queryData_tells_lines :
    let plan : ServicePlan := ⟨"main", 10, .whole 60, "NULL", defaultDenied⟩
    let handle := Rehearsal.handle ⟨fun _ _ => fault .runtime "line one\nline two", fun _ => .ok ()⟩
    let query : Json := .object [("refId", .string "A"), ("queryText", .string "SELECT 1")]
    ((queryData plan handle [query]).outcome (.start .empty)).1 =
      .ok [("A", ⟨[], some "Internal error: line one\nline two", 500⟩)] ∧
    ¬ Response.IsPlain ⟨[], some "Internal error: line one\nline two", 500⟩ := by
  intro plan handle query
  constructor
  · decide +kernel
  · exact (crashedResponse_isPlain_iff ⟨.runtime, "line one\nline two"⟩).not.mpr (by decide)

end QueryGate
