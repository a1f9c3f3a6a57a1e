import QueryGate.Proofs.Json.Members
import QueryGate.Proofs.Json.Written
import QueryGate.Proofs.Service.Idle
import QueryGate.Proofs.Service.Steady
/-! The entries of a batch. Over a steady handle each entry is what its query gives when it runs alone,
and the batch sends what its queries send alone, in their order. -/

namespace QueryGate

variable {σ α : Type}

/-! One query of a batch. -/

/-- Whether a raw query reads as a request that asks for nothing. -/
def Json.isIdle (raw : Json) : Bool :=
  match Request.read raw with
  | .wrong _ _ => false
  | .ok r => r.resolve = .error nothingAsked

/-- The response to a raw query that runs alone, whatever the session. -/
inductive Json.RunsTo (plan : ServicePlan) (handle : Handle σ) (raw : Json) : Response → Prop
  | unreadable {i : Issue} {more : List Issue} (h : Request.read raw = .wrong i more) :
    RunsTo plan handle raw ⟨[], some (singleSpaced ("json unmarshal: " ++ i.kind.text)), 400⟩
  | whole {r : Request} {frame : Frame} (h : Request.read raw = .ok r)
    (hrun : (executeQuery plan handle r).Always (.ok frame)) :
    RunsTo plan handle raw ⟨[frame], none, 200⟩
  | failed {r : Request} {f : Failure} (h : Request.read raw = .ok r)
    (hrun : (executeQuery plan handle r).Always (.error (.failure f))) :
    RunsTo plan handle raw ⟨[], some f.safe, f.status⟩
  | crashed {r : Request} {f : Fault} (h : Request.read raw = .ok r)
    (hrun : (executeQuery plan handle r).Always (.error (.fault f))) :
    RunsTo plan handle raw ⟨[], some ("Internal error: " ++ f.message), 500⟩

theorem serveRaw_idle (plan : ServicePlan) (handle : Handle σ) (key : String) {raw : Json}
    (h : raw.isIdle = true) : serveRaw plan handle key raw = pure none := by
  unfold Json.isIdle at h
  unfold serveRaw
  cases hr : Request.read raw with
  | wrong i more => simp [hr] at h
  | ok r =>
    simp only [hr, decide_eq_true_eq] at h
    simp only [r.resolve_eq_nothingAsked_iff.mp h, Bool.false_eq_true, if_false]

theorem respond_always {plan : ServicePlan} {handle : Handle σ}
    (h : handle.IsSteady plan.timeout) (key : String) {raw : Json} {r : Request}
    (hr : Request.read raw = .ok r) :
    ∃ response, (respond plan handle key r).Always (.ok response) ∧
      raw.RunsTo plan handle response := by
  obtain ⟨result, hresult⟩ := executeQuery_always h r
  have hlog := fun level logger message => Act.always_log (σ := σ) level logger message
  rcases result with (f | f) | frame
  · exact ⟨_, hresult.caught.bind_ok ((hlog _ _ _).bind_ok (Act.always_pure _)), .failed hr hresult⟩
  · exact ⟨_, hresult.caught.bind_ok ((hlog _ _ _).bind_ok (Act.always_pure _)), .crashed hr hresult⟩
  · exact ⟨_, hresult.caught.bind_ok (Act.always_pure _), .whole hr hresult⟩

theorem serveRaw_always {plan : ServicePlan} {handle : Handle σ}
    (h : handle.IsSteady plan.timeout) (key : String) {raw : Json} (hidle : raw.isIdle = false) :
    ∃ response, (serveRaw plan handle key raw).Always (.ok (some response)) ∧
      raw.RunsTo plan handle response := by
  unfold Json.isIdle at hidle
  unfold serveRaw
  cases hr : Request.read raw with
  | wrong i more =>
    exact ⟨_, (Act.always_log _ _ _).bind_ok (Act.always_pure _), .unreadable hr⟩
  | ok r =>
    simp only [hr, decide_eq_false_iff_not, r.resolve_eq_nothingAsked_iff, Bool.not_eq_false] at hidle
    obtain ⟨response, hresponse, hruns⟩ := respond_always h key hr
    simp only [hidle, if_true]
    exact ⟨response, hresponse.bind fun _ => Act.always_pure _, hruns⟩

/-! The whole batch. -/

/-- The keyed queries that have an entry. -/
def served (keyed : List (String × Json)) : List (String × Json) :=
  keyed.filter fun query => !query.2.isIdle

/-- The entries of keyed queries: the keys in the order in which they first come up, each with the
response to the last query under it. -/
structure EntriesOf (plan : ServicePlan) (handle : Handle σ) (keyed : List (String × Json))
    (results : Members Response) : Prop where
  keys : results.map (·.1) = ((served keyed).map (·.1)).eraseDups
  last : ∀ {key : String} {response : Response}, results.find? key = some response →
    ∃ raw, ((served keyed).filter (·.1 = key)).getLast? = some (key, raw) ∧
      raw.RunsTo plan handle response

theorem EntriesOf.idle {plan : ServicePlan} {handle : Handle σ} {keyed : List (String × Json)}
    {results : Members Response} (h : EntriesOf plan handle keyed results) (key : String) {raw : Json}
    (hidle : raw.isIdle = true) : EntriesOf plan handle (keyed ++ [(key, raw)]) results := by
  have hserved : served (keyed ++ [(key, raw)]) = served keyed := by simp [served, hidle]
  constructor
  · rw [hserved, h.keys]
  · intro key response hfind
    rw [hserved]
    exact h.last hfind

theorem EntriesOf.put {plan : ServicePlan} {handle : Handle σ} {keyed : List (String × Json)}
    {results : Members Response} (h : EntriesOf plan handle keyed results) (key : String) {raw : Json}
    {response : Response} (hidle : raw.isIdle = false) (hruns : raw.RunsTo plan handle response) :
    EntriesOf plan handle (keyed ++ [(key, raw)]) (results.put key response) := by
  have hserved : served (keyed ++ [(key, raw)]) = served keyed ++ [(key, raw)] := by
    simp [served, hidle]
  constructor
  · have hmem : key ∈ results.map (·.1) ↔ key ∈ (served keyed).map (·.1) := by
      rw [h.keys, List.mem_eraseDups]
    rw [hserved, Members.names_put, List.map_append, List.eraseDups_append, ← h.keys]
    by_cases hk : key ∈ results.map (·.1)
    · simp [hk, hmem.mp hk, List.removeAll]
    · have hk' := fun hin => hk (hmem.mpr hin)
      simp only [hk, if_false, List.map_cons, List.map_nil]
      rw [List.removeAll, List.filter_cons_of_pos (by simpa using hk'), List.filter_nil]
      rfl
  · intro other response' hfind
    rw [Members.find?_put] at hfind
    rw [hserved, List.filter_append]
    by_cases ho : other = key
    · subst ho
      simp only [if_true, Option.some.injEq] at hfind
      exact ⟨raw, by simp, hfind ▸ hruns⟩
    · simp only [ho, if_false] at hfind
      obtain ⟨last, hlast, hl⟩ := h.last hfind
      have hk : ¬ key = other := fun hk => ho hk.symm
      refine ⟨last, ?_, hl⟩
      rw [List.filter_cons_of_neg (by simpa using hk), List.filter_nil, List.append_nil, hlast]

theorem serveBatch_cons {plan : ServicePlan} {handle : Handle σ} {index : Nat} {raw : Json}
    {key : String} (hkey : queryKey index raw = .ok key) (done : Members Response)
    (rest : List Json) : serveBatch plan handle index done (raw :: rest) =
      serveRaw plan handle key raw >>= fun
        | some response => serveBatch plan handle (index + 1) (done.put key response) rest
        | none => serveBatch plan handle (index + 1) done rest := by
  have hgiven : (Act.given ((queryKey index raw).mapError Raised.fault) : Act σ String) = pure key := by
    rw [hkey]
    rfl
  unfold serveBatch
  rw [hgiven, pure_bind]
  cases rest <;> rfl

/-- What is served so far grows by one query at a time. -/
theorem serveBatch_always {plan : ServicePlan} {handle : Handle σ}
    (h : handle.IsSteady plan.timeout) {queries : List Json}
    (hread : ∀ raw ∈ queries, ∃ text, Json.read text = .ok raw) {seen : List (String × Json)}
    {done : Members Response} (hdone : EntriesOf plan handle seen done) :
    ∃ (keyed : List (String × Json)) (results : Members Response),
      (serveBatch plan handle seen.length done queries).Always (.ok results) ∧
      EntriesOf plan handle (seen ++ keyed) results ∧ keyed.map (·.2) = queries ∧
      ∀ {i key raw}, keyed[i]? = some (key, raw) → queryKey (seen.length + i) raw = .ok key := by
  induction queries generalizing seen done with
  | nil => exact ⟨[], done, Act.always_pure _, by simpa using hdone, rfl, by simp⟩
  | cons raw rest ih =>
    obtain ⟨text, htext⟩ := hread raw List.mem_cons_self
    obtain ⟨key, hkey⟩ := queryKey_of_read seen.length htext
    have hstep : ∃ after, EntriesOf plan handle (seen ++ [(key, raw)]) after ∧
        ∀ {results}, (serveBatch plan handle (seen.length + 1) after rest).Always (.ok results) →
          (serveBatch plan handle seen.length done (raw :: rest)).Always (.ok results) := by
      rw [serveBatch_cons hkey]
      cases hidle : raw.isIdle with
      | true =>
        refine ⟨done, hdone.idle key hidle, fun hrest => ?_⟩
        rw [serveRaw_idle plan handle key hidle, pure_bind]
        exact hrest
      | false =>
        obtain ⟨response, hserve, hruns⟩ := serveRaw_always h key hidle
        exact ⟨done.put key response, hdone.put key hidle hruns, fun hrest => hserve.bind_ok hrest⟩
    obtain ⟨after, hafter, hrun⟩ := hstep
    obtain ⟨keyed, results, hresults, hentries, hqueries, hkeys⟩ :=
      ih (fun other ho => hread other (List.mem_cons_of_mem _ ho)) hafter
    rw [List.length_append, List.length_singleton] at hresults hkeys
    refine ⟨(key, raw) :: keyed, results, hrun hresults, by simpa using hentries, by simp [hqueries], ?_⟩
    intro i key' raw' hi
    cases i with
    | zero =>
      simp only [List.getElem?_cons_zero, Option.some.injEq, Prod.mk.injEq] at hi
      obtain ⟨rfl, rfl⟩ := hi
      exact hkey
    | succ i =>
      rw [List.getElem?_cons_succ] at hi
      rw [← Nat.add_assoc, Nat.add_right_comm]
      exact hkeys hi

/-- What a raw query sends when it runs alone. -/
theorem outgoingOfRaw_of_read (plan : ServicePlan) {raw : Json} {r : Request}
    (h : Request.read raw = .ok r) : outgoingOfRaw plan raw = r.outgoing plan := by
  simp only [outgoingOfRaw, h]
  split
  · rfl
  · rename_i hidle
    have hnone := r.resolve_eq_nothingAsked_iff.mpr (Bool.eq_false_of_not_eq_true hidle)
    simp only [Request.outgoing, hnone]

theorem servedQueries_eq {index : Nat} {queries : List Json}
    (h : ∀ raw ∈ queries, ∃ text, Json.read text = .ok raw) : servedQueries index queries = queries := by
  induction queries generalizing index with
  | nil => rfl
  | cons raw rest ih =>
    obtain ⟨text, htext⟩ := h raw List.mem_cons_self
    obtain ⟨key, hkey⟩ := queryKey_of_read index htext
    simp only [servedQueries, hkey, ih fun other ho => h other (List.mem_cons_of_mem _ ho)]

end QueryGate
