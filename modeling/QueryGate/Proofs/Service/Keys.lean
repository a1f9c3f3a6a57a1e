import Mathlib.Data.List.Dedup
import Mathlib.Data.List.Perm.Basic
import Mathlib.Data.List.Sigma
import QueryGate.Proofs.Service.Entries
/-! The keys of a batch. A query goes by its reference or, without one, by its place, and references and
places share one set of names. So a batch has an outcome for each query, unless the reference of one is
the place of another that gives none. -/

namespace QueryGate

variable {σ : Type}

/-- The text that a raw query gives for its reference; an empty one does not count. -/
def Json.reference? (raw : Json) : Option String :=
  match raw.field? "refId" with
  | some (.string s) => if s.isEmpty then none else some s
  | _ => none

/-- The references that count are texts, no two of them the same. -/
structure ReferencesDiffer (queries : List Json) : Prop where
  texts : ∀ raw ∈ queries, ∀ ref, raw.field? "refId" = some ref → ref.isFilled = true →
    ∃ s, ref = .string s
  differ : (queries.filterMap Json.reference?).Nodup

theorem ReferencesDiffer.place_eq {queries : List Json} (h : ReferencesDiffer queries) {i j : Nat}
    {raw raw' : Json} {ref : String} (hi : queries[i]? = some raw) (hj : queries[j]? = some raw')
    (href : raw.reference? = some ref) (href' : raw'.reference? = some ref) : i = j := by
  have hpairs := List.pairwise_iff_getElem.mp (List.pairwise_filterMap.mp h.differ)
  obtain ⟨hi', rfl⟩ := List.getElem?_eq_some_iff.mp hi
  obtain ⟨hj', rfl⟩ := List.getElem?_eq_some_iff.mp hj
  rcases Nat.lt_trichotomy i j with hlt | heq | hlt
  · exact absurd rfl (hpairs i j hi' hj' hlt ref href ref href')
  · exact heq
  · exact absurd rfl (hpairs j i hj' hi' hlt ref href' ref href)

/-- The key of a query at a place. -/
def placeKey (query : Json × Nat) : String :=
  query.1.reference?.getD (toString query.2)

/-- The queries that ask for something, with their places from the given one on. -/
def answered (index : Nat) (queries : List Json) : List (Json × Nat) :=
  (queries.zipIdx index).filter fun query => !query.1.isIdle

theorem queryKey_of_text {raw : Json} (h : ∀ ref, raw.field? "refId" = some ref → ref.isFilled = true →
    ∃ s, ref = .string s) (index : Nat) : queryKey index raw = .ok (placeKey (raw, index)) := by
  unfold queryKey placeKey Json.reference?
  cases hfield : raw.field? "refId" with
  | none => rfl
  | some ref =>
    cases hfilled : ref.isFilled with
    | true =>
      obtain ⟨s, rfl⟩ := h ref hfield hfilled
      have hs : s.isEmpty = false := by simpa [Json.isFilled] using hfilled
      simp [hfilled, hs, Json.toCell, Cell.plainText]
    | false =>
      cases ref with
      | string s =>
        have hs : s.isEmpty = true := by simpa [Json.isFilled] using hfilled
        simp [hfilled, hs]
      | _ => simp [hfilled]

theorem answered_cons (index : Nat) (raw : Json) (queries : List Json) :
    answered index (raw :: queries) =
      if raw.isIdle then answered (index + 1) queries
      else (raw, index) :: answered (index + 1) queries := by
  cases h : raw.isIdle <;> simp [answered, List.zipIdx_cons, h]

theorem mem_answered {queries : List Json} {raw : Json} {i : Nat} :
    (raw, i) ∈ answered 0 queries ↔ queries[i]? = some raw ∧ raw.isIdle = false := by
  simp [answered, List.mem_zipIdx_iff_getElem?]

theorem answered_nodup (index : Nat) (queries : List Json) : (answered index queries).Nodup := by
  refine List.Nodup.filter _ (List.Nodup.of_map Prod.snd ?_)
  rw [List.zipIdx_map_snd]
  exact List.nodup_range'

/-- A query that asks for something has a response over any handle. -/
theorem serveRaw_some (plan : ServicePlan) (handle : Handle σ) (key : String) {raw : Json}
    (hidle : raw.isIdle = false) (s : Session σ) :
    ∃ response s', (serveRaw plan handle key raw).outcome s = (.ok (some response), s') := by
  unfold Json.isIdle at hidle
  unfold serveRaw
  cases hr : Request.read raw with
  | wrong i more => exact ⟨_, _, rfl⟩
  | ok r =>
    simp only [hr, decide_eq_false_iff_not, r.resolve_eq_nothingAsked_iff, Bool.not_eq_false] at hidle
    obtain ⟨response, s', hresponse⟩ := (respond_neverRaises plan handle key r).outcome_eq s
    refine ⟨response, s', ?_⟩
    simp only [hidle, if_true, Act.outcome_bind, hresponse, Act.outcome_pure]

/-- The names of the entries: those there before and the keys of the queries that were answered. -/
theorem serveBatch_names (plan : ServicePlan) (handle : Handle σ) {queries : List Json}
    (htexts : ∀ raw ∈ queries, ∀ ref, raw.field? "refId" = some ref → ref.isFilled = true →
      ∃ s, ref = .string s)
    (index : Nat) {done : Members Response} (hdone : (done.map (·.1)).Nodup) (s : Session σ) :
    ∃ results s', (serveBatch plan handle index done queries).outcome s = (.ok results, s') ∧
      (results.map (·.1)).Nodup ∧
      ∀ key, key ∈ results.map (·.1) ↔
        key ∈ done.map (·.1) ∨ key ∈ (answered index queries).map placeKey := by
  induction queries generalizing index done s with
  | nil => exact ⟨done, s, rfl, hdone, by simp [answered]⟩
  | cons raw rest ih =>
    have hkey := queryKey_of_text (htexts raw List.mem_cons_self) index
    have hrest := fun other ho => htexts other (List.mem_cons_of_mem raw ho)
    rw [serveBatch_cons hkey, Act.outcome_bind, answered_cons]
    cases hidle : raw.isIdle with
    | true =>
      rw [serveRaw_idle plan handle _ hidle, Act.outcome_pure]
      exact ih hrest (index + 1) hdone s
    | false =>
      obtain ⟨response, s₁, hresponse⟩ := serveRaw_some plan handle (placeKey (raw, index)) hidle s
      rw [hresponse]
      have hput := Members.names_put done (placeKey (raw, index)) response
      have hnodup : ((done.put (placeKey (raw, index)) response).map (·.1)).Nodup := by
        rw [hput]
        split
        · exact hdone
        · rename_i hnew
          exact List.nodup_append.mpr ⟨hdone, List.nodup_singleton _, by
            rintro name hname other hother rfl
            exact hnew (List.mem_singleton.mp hother ▸ hname)⟩
      obtain ⟨results, s', hrun, hresults, hmem⟩ := ih hrest (index + 1) hnodup s₁
      refine ⟨results, s', hrun, hresults, fun key => ?_⟩
      have hput_mem : key ∈ (done.put (placeKey (raw, index)) response).map (·.1) ↔
          key ∈ done.map (·.1) ∨ key = placeKey (raw, index) := by
        rw [hput]
        split
        · rename_i hold
          exact ⟨Or.inl, fun h => h.elim id fun heq => heq ▸ hold⟩
        · rw [List.mem_append, List.mem_singleton]
      rw [hmem, hput_mem, or_assoc]
      simp

/-- The keys of the answered queries differ just if no reference is the place of a query without one. -/
theorem placeKeys_nodup_iff {queries : List Json} (h : ReferencesDiffer queries) :
    ((answered 0 queries).map placeKey).Nodup ↔
      ∀ i j raw raw', (raw, i) ∈ answered 0 queries → (raw', j) ∈ answered 0 queries →
        raw'.reference? = none → raw.reference? ≠ some (toString j) := by
  rw [List.nodup_map_iff_inj_on (answered_nodup 0 queries)]
  constructor
  · intro hinj i j raw raw' hi hj hnone hsome
    have heq := hinj (raw, i) hi (raw', j) hj (by simp [placeKey, hnone, hsome])
    obtain ⟨rfl, rfl⟩ := Prod.mk.inj heq
    rw [hnone] at hsome
    cases hsome
  · rintro hno ⟨raw, i⟩ hi ⟨raw', j⟩ hj heq
    have hplaces : i = j → (raw, i) = (raw', j) := by
      rintro rfl
      have hraw := (mem_answered.mp hi).1.symm.trans (mem_answered.mp hj).1
      rw [Option.some.inj hraw]
    simp only [placeKey] at heq
    cases href : raw.reference? with
    | none =>
      cases href' : raw'.reference? with
      | none =>
        rw [href, href'] at heq
        have hdigits : Nat.toDigits 10 i = Nat.toDigits 10 j := by
          simpa using congrArg String.toList heq
        refine hplaces ?_
        rw [← Nat.ofDigitChars_ten_toDigits (n := i), hdigits, Nat.ofDigitChars_ten_toDigits]
      | some ref' =>
        rw [href, href'] at heq
        exact absurd (href'.trans (congrArg some heq.symm)) (hno j i raw' raw hj hi href)
    | some ref =>
      cases href' : raw'.reference? with
      | none =>
        rw [href, href'] at heq
        exact absurd (href.trans (congrArg some heq)) (hno i j raw raw' hi hj href')
      | some ref' =>
        rw [href, href'] at heq
        obtain rfl : ref = ref' := heq
        exact hplaces (h.place_eq (mem_answered.mp hi).1 (mem_answered.mp hj).1 href href')

/-- A whole batch is answered, and its entries are under the keys of the queries answered, each once. -/
theorem queryData_names (plan : ServicePlan) (handle : Handle σ) (s : Session σ) {queries : List Json}
    (h : ReferencesDiffer queries) :
    ∃ results s', (queryData plan handle queries).outcome s = (.ok results, s') ∧
      (results.map (·.1)).Perm ((answered 0 queries).map placeKey).dedup := by
  have hstart : (([] : Members Response).map (·.1)).Nodup := List.nodup_nil
  obtain ⟨results, s', hrun, hnodup, hmem⟩ := serveBatch_names plan handle h.texts 0 hstart s
  refine ⟨results, s', hrun, (List.perm_ext_iff_of_nodup hnodup (List.nodup_dedup _)).mpr fun key => ?_⟩
  rw [hmem, List.mem_dedup]
  simp

/-- The entries are as many as the queries answered, just if no reference is the place of another query
that gives none. -/
theorem queryData_entry_count (plan : ServicePlan) (handle : Handle σ) (s : Session σ)
    {queries : List Json} (h : ReferencesDiffer queries) :
    ∃ results s', (queryData plan handle queries).outcome s = (.ok results, s') ∧
      (∀ key, key ∈ results.map (·.1) ↔ key ∈ (answered 0 queries).map placeKey) ∧
      (results.length = (answered 0 queries).length ↔
        ∀ i j raw raw', (raw, i) ∈ answered 0 queries → (raw', j) ∈ answered 0 queries →
          raw'.reference? = none → raw.reference? ≠ some (toString j)) := by
  obtain ⟨results, s', hrun, hperm⟩ := queryData_names plan handle s h
  refine ⟨results, s', hrun, fun key => by rw [hperm.mem_iff, List.mem_dedup], ?_⟩
  have hlength : results.length = ((answered 0 queries).map placeKey).dedup.length := by
    simpa using hperm.length_eq
  rw [← placeKeys_nodup_iff h, hlength, ← List.dedup_eq_self]
  constructor
  · intro hsame
    exact (List.dedup_sublist _).eq_of_length (by simpa using hsame)
  · intro hself
    rw [hself, List.length_map]

theorem queryData_entry_count_mixed :
    let plan : ServicePlan := ⟨"main", 10, .whole 60, "NULL", defaultDenied⟩
    let handle := Rehearsal.handle ⟨fun _ _ => .ok .empty, fun _ => .ok ()⟩
    let batch : List Json := [.object [("refId", .string "2"), ("queryText", .string "SELECT 1")],
      .object [("queryText", .string "SELECT 2")], .object []]
    ReferencesDiffer batch ∧ ∃ results s',
      (queryData plan handle batch).outcome (.start .empty) = (.ok results, s') ∧ results.length = 2 := by
  intro plan handle batch
  have hdiffer : ReferencesDiffer batch := by
    refine ⟨?_, by decide +kernel⟩
    simp [batch, Json.field?, Members.find?, List.lookup_cons]
  obtain ⟨results, s', hrun, -, hcount⟩ := queryData_entry_count plan handle (.start .empty) hdiffer
  have hplaces := (placeKeys_nodup_iff hdiffer).mp (by decide +kernel)
  have htwo : (answered 0 batch).length = 2 := by decide +kernel
  exact ⟨hdiffer, results, s', hrun, (hcount.mpr hplaces).trans htwo⟩

/-- A reference that is the place of a query without one: of two outcomes one is left. -/
theorem queryData_entry_lost :
    let plan : ServicePlan := ⟨"main", 10, .whole 60, "NULL", defaultDenied⟩
    let handle := Rehearsal.handle ⟨fun _ _ => .ok .empty, fun _ => .ok ()⟩
    let batch : List Json := [.object [("refId", .string "1"), ("queryText", .string "SELECT 1")],
      .object [("queryText", .string "SELECT 2")]]
    ReferencesDiffer batch ∧ (answered 0 batch).length = 2 ∧ ∃ results s',
      (queryData plan handle batch).outcome (.start .empty) = (.ok results, s') ∧
      results.map (·.1) = ["1"] := by
  intro plan handle batch
  have hdiffer : ReferencesDiffer batch := by
    refine ⟨?_, by decide +kernel⟩
    simp [batch, Json.field?, Members.find?, List.lookup_cons]
  obtain ⟨results, s', hrun, hperm⟩ := queryData_names plan handle (.start .empty) hdiffer
  have hkeys : ((answered 0 batch).map placeKey).dedup = ["1"] := by decide +kernel
  rw [hkeys] at hperm
  exact ⟨hdiffer, by decide +kernel, results, s', hrun, List.perm_singleton.mp hperm⟩

end QueryGate
