import QueryGate.Proofs.Query.Shape
import QueryGate.Sql.Parser
/-! What running a reader comes to, step by step: single tokens where they stand, and loops that go
from state to state. -/

namespace QueryGate

open Grammar Reading

section

variable {text : Array Token} {answer : {α : Type} → Construct α → Nat → Outcome α} {i j k : Nat}

theorem run_bind {α β : Type} (r : Reading α) (next : α → Reading β) (i : Nat) :
    (r >>= next).run text answer i = (r.run text answer i).bind
      fun (a, j) => (next a).run text answer j := by
  change (Reading.andThen r next).run text answer i = _
  conv =>
    lhs
    rw [Reading.run]
  cases r.run text answer i <;> rfl

theorem run_bind_ok {α β : Type} {r : Reading α} {a : α}
    (h : r.run text answer i = .ok (a, j)) (next : α → Reading β) :
    (r >>= next).run text answer i = (next a).run text answer j := by
  rw [run_bind, h]
  rfl

theorem run_pure {α : Type} (a : α) (i : Nat) :
    (pure a : Reading α).run text answer i = .ok (a, i) := rfl

theorem run_inner {α : Type} (c : Construct α) (i : Nat) :
    (inner c).run text answer i = answer c i := rfl

theorem run_here (i : Nat) : here.run text answer i = .ok (i, i) := rfl

theorem run_back (place i : Nat) : (back place).run text answer i = .ok ((), min place i) := rfl

theorem run_sees (p : Token → Bool) (i : Nat) :
    (sees p).run text answer i = .ok (text[i]?.any p, i) := rfl

theorem run_sees_none (p : Token → Bool) (h : text[i]?.any p = false) :
    (sees p).run text answer i = .ok (false, i) := by
  rw [run_sees, h]

theorem run_matchToken (p : Token → Bool) {t : Token} (h : text[i]? = some t) (hp : p t = true) :
    (matchToken? p).run text answer i = .ok (some t, i + 1) := by
  simp only [matchToken?, Reading.run, h, hp, if_true]

theorem run_matchToken_none (p : Token → Bool) (h : text[i]?.any p = false) :
    (matchToken? p).run text answer i = .ok (none, i) := by
  cases ht : text[i]? with
  | none => simp only [matchToken?, Reading.run, ht]
  | some t =>
    have hp : p t = false := by simpa only [ht, Option.any_some] using h
    simp only [matchToken?, Reading.run, ht, hp, Bool.false_eq_true, if_false]

theorem run_accepts (p : Token → Bool) {t : Token} (h : text[i]? = some t) (hp : p t = true) :
    (accepts p).run text answer i = .ok (true, i + 1) :=
  run_bind_ok (run_matchToken p h hp) _

theorem run_accepts_none (p : Token → Bool) (h : text[i]?.any p = false) :
    (accepts p).run text answer i = .ok (false, i) :=
  run_bind_ok (run_matchToken_none p h) _

theorem run_written_cons {w : String} (ws : List String) {t : Token} (h : text[i]? = some t)
    (hw : isWritten w t = true) :
    (written (w :: ws)).run text answer i = (written ws).run text answer (i + 1) :=
  run_bind_ok (run_accepts _ h hw) _

theorem run_written_none (w : String) (ws : List String) (h : text[i]?.any (isWritten w) = false) :
    (written (w :: ws)).run text answer i = .ok (false, i) :=
  run_bind_ok (run_accepts_none _ h) _

theorem run_phrase {ws : List String} (h : (written ws).run text answer i = .ok (true, j)) :
    (phrase ws).run text answer i = .ok (true, j) :=
  (run_bind_ok (run_here i) _).trans ((run_bind_ok h _).trans rfl)

/-- A phrase that fails further on reads nothing. -/
theorem run_phrase_back {ws : List String} (h : (written ws).run text answer i = .ok (false, j))
    (hij : i ≤ j) : (phrase ws).run text answer i = .ok (false, i) := by
  refine (run_bind_ok (run_here i) _).trans ((run_bind_ok h _).trans ?_)
  exact (run_bind_ok (run_back i j) _).trans (by rw [Nat.min_eq_left hij]; rfl)

theorem run_phrase_none (w : String) (ws : List String) (h : text[i]?.any (isWritten w) = false) :
    (phrase (w :: ws)).run text answer i = .ok (false, i) :=
  run_phrase_back (run_written_none w ws h) (Nat.le_refl i)

theorem run_needSymbol {name : String} {t : Token} (h : text[i]? = some t)
    (ht : isSymbol name t = true) : (needSymbol name).run text answer i = .ok ((), i + 1) :=
  (run_bind_ok (run_accepts _ h ht) _).trans rfl

theorem run_operatorOf_none (table : List (String × String))
    (h : text[i]?.any (fun t => (operatorName? table t).isSome) = false) :
    (operatorOf table).run text answer i = .ok (none, i) :=
  run_bind_ok (run_matchToken_none _ h) _

/-- A loop whose step gives nothing at once. -/
theorem run_loop_stop {σ : Type} {step : σ → Reading (Option σ)} {s : σ}
    (h : (step s).run text answer i = .ok (none, j)) :
    (loop step s).run text answer i = .ok (s, j) := by
  simp only [Reading.run, repeated, h]

theorem run_take_none (p : Token → Option Token → Bool)
    (h : text[i]?.any (fun t => p t text[i + 1]?) = false) :
    (take p).run text answer i = .ok (none, i) := by
  cases ht : text[i]? with
  | none => simp only [Reading.run, ht]
  | some t =>
    have hp : p t text[i + 1]? = false := by simpa only [ht, Option.any_some] using h
    simp only [Reading.run, ht, hp, Bool.false_eq_true, if_false]

theorem run_take (p : Token → Option Token → Bool) {t : Token} (h : text[i]? = some t)
    (hp : p t text[i + 1]? = true) : (take p).run text answer i = .ok (some t, i + 1) := by
  simp only [Reading.run, h, hp, if_true]

theorem run_look (q : Option Token → Bool) (i : Nat) :
    (look q).run text answer i = .ok (q text[i]?, i) := rfl

theorem run_pair_none {first second : String}
    (h : text[i]?.any (fun t => isNamed first t && text[i + 1]?.any (isNamed second)) = false) :
    (pair first second).run text answer i = .ok (false, i) :=
  run_bind_ok (run_take_none _ h) _

theorem run_pair_none_of_first {first : String} (h : text[i]?.any (isNamed first) = false)
    (second : String) : (pair first second).run text answer i = .ok (false, i) := by
  refine run_pair_none ?_
  cases ht : text[i]? with
  | none => rfl
  | some t =>
    have hfirst : isNamed first t = false := by simpa [ht] using h
    simp [hfirst]

/-! Loops. -/

/-- Goes from state to state by a step that reads something each time, until it gives nothing. -/
inductive Steps {σ : Type} (step : σ → Nat → Outcome (Option σ)) : σ → Nat → σ → Nat → Prop
  | stop {s : σ} {i : Nat} (h : step s i = .ok (none, i)) : Steps step s i s i
  | next {s s' s'' : σ} {i j k : Nat} (h : step s i = .ok (some s', j)) (hij : i < j)
    (hrest : Steps step s' j s'' k) : Steps step s i s'' k

theorem Steps.le {σ : Type} {step : σ → Nat → Outcome (Option σ)} {s s' : σ}
    (h : Steps step s i s' j) : i ≤ j := by
  induction h with
  | stop => exact Nat.le_refl _
  | next _ hij _ ih => omega

theorem Steps.repeated {σ : Type} {step : σ → Nat → Outcome (Option σ)} {s s' : σ}
    (h : Steps step s i s' j) {fuel : Nat} (hfuel : j - i < fuel) :
    repeated step fuel s i = .ok (s', j) := by
  induction h generalizing fuel with
  | stop h =>
    obtain ⟨fuel, rfl⟩ : ∃ k, fuel = k + 1 := ⟨fuel - 1, by omega⟩
    simp only [Reading.repeated, h]
  | next h hij hrest ih =>
    obtain ⟨fuel, rfl⟩ : ∃ k, fuel = k + 1 := ⟨fuel - 1, by omega⟩
    have hle := hrest.le
    simp only [Reading.repeated, h, hij, if_true]
    exact ih (by omega)

theorem run_loop {σ : Type} {step : σ → Reading (Option σ)} {s t : σ}
    (h : Steps (fun s i => (step s).run text answer i) s i t j) (hj : j - i ≤ text.size - i) :
    (loop step s).run text answer i = .ok (t, j) := by
  rw [Reading.run]
  exact h.repeated (by omega)

/-! Tokens in a row, and what stands behind them. -/

/-- These tokens stand one after the other from a place on. -/
def Stands (text : Array Token) (i : Nat) : List Token → Prop
  | [] => True
  | t :: ts => text[i]? = some t ∧ Stands text (i + 1) ts

theorem stands_append {ts us : List Token} :
    Stands text i (ts ++ us) ↔ Stands text i ts ∧ Stands text (i + ts.length) us := by
  induction ts generalizing i with
  | nil => simp [Stands]
  | cons t ts ih =>
    have hplace : i + 1 + ts.length = i + (ts.length + 1) := by omega
    simp [Stands, ih, and_assoc, hplace]

theorem Stands.length_le {ts : List Token} (h : Stands text i ts) : ts.length ≤ text.size - i := by
  induction ts generalizing i with
  | nil => exact Nat.zero_le _
  | cons t ts ih =>
    have hlt : i < text.size := (Array.getElem?_eq_some_iff.mp h.1).1
    have hle := ih h.2
    rw [List.length_cons]
    omega

/-- One of these tokens stands at a place, or the text ends there. -/
def Stops (text : Array Token) (i : Nat) (fs : List Token) : Prop :=
  ∀ t ∈ text[i]?, t ∈ fs

theorem Stops.any {fs : List Token} (h : Stops text i fs) {p : Token → Bool}
    (hp : ∀ t ∈ fs, p t = false) : text[i]?.any p = false := by
  cases ht : text[i]? with
  | none => rfl
  | some t => exact hp t (h t ht)

theorem Stops.mono {fs gs : List Token} (h : Stops text i fs) (hsub : ∀ t ∈ fs, t ∈ gs) :
    Stops text i gs :=
  fun t ht => hsub t (h t ht)

theorem stops_of_get {t : Token} (h : text[i]? = some t) {fs : List Token} (ht : t ∈ fs) :
    Stops text i fs := by
  intro u hu
  rw [h] at hu
  exact Option.mem_some.mp hu ▸ ht

section

variable {α β σ : Type} {sep : Token} {tokens : α → List Token} {fs : List Token}
  {step : σ → Reading (Option σ)} (state : β → σ) (add : β → α → β)

/-- A loop over items that each have a token in front of them. -/
theorem steps_separated {xs : List α}
    (hnext : ∀ x ∈ xs, ∀ b i, Stands text i (sep :: tokens x) →
      Stops text (i + (sep :: tokens x).length) (sep :: fs) →
      (step (state b)).run text answer i = .ok (some (state (add b x)), i + (sep :: tokens x).length))
    (hstop : ∀ b i, Stops text i fs → (step (state b)).run text answer i = .ok (none, i))
    (b : β) (h : Stands text i (xs.flatMap fun x => sep :: tokens x))
    (hend : Stops text (i + (xs.flatMap fun x => sep :: tokens x).length) fs) :
    Steps (fun s i => (step s).run text answer i) (state b) i (state (xs.foldl add b))
      (i + (xs.flatMap fun x => sep :: tokens x).length) := by
  induction xs generalizing b i with
  | nil => exact .stop (hstop b i hend)
  | cons x xs ih =>
    rw [List.flatMap_cons] at h hend ⊢
    obtain ⟨hx, hxs⟩ := stands_append.mp h
    rw [List.length_append, ← Nat.add_assoc] at hend ⊢
    have hafter : Stops text (i + (sep :: tokens x).length) (sep :: fs) := by
      cases xs with
      | nil => exact hend.mono fun t ht => List.mem_cons_of_mem _ ht
      | cons y ys => exact stops_of_get hxs.1 List.mem_cons_self
    exact .next (hnext x List.mem_cons_self b i hx hafter) (by simp)
      (ih (fun y hy => hnext y (List.mem_cons_of_mem _ hy)) _ hxs hend)

end

section

variable {α : Type} {tokens : α → List Token} {tree : α → Tree} {fs : List Token}

theorem separatedTokens_map {sep : Token} {x : α} {xs : List α} :
    separatedTokens sep ((x :: xs).map tokens) = tokens x ++ xs.flatMap fun y => sep :: tokens y := by
  simp [separatedTokens, List.flatMap_map]

/-- Behind the first of some items stands a separator or what stands behind all of them. -/
theorem stops_first {sep : Token} {x : α} {xs : List α}
    (h : Stands text i (separatedTokens sep ((x :: xs).map tokens)))
    (hend : Stops text (i + (separatedTokens sep ((x :: xs).map tokens)).length) fs) :
    Stops text (i + (tokens x).length) (sep :: fs) := by
  rw [separatedTokens_map] at h hend
  cases xs with
  | nil =>
    rw [List.flatMap_nil, List.append_nil] at hend
    exact hend.mono fun t ht => List.mem_cons_of_mem _ ht
  | cons y ys => exact stops_of_get (stands_append.mp h).2.1 List.mem_cons_self

theorem foldl_snoc (tree : α → Tree) (xs : List α) (items : List Tree) :
    xs.foldl (fun items y => items ++ [tree y]) items = items ++ xs.map tree := by
  induction xs generalizing items with
  | nil => simp
  | cons x xs ih => simp [ih]

variable (tokens tree)

theorem run_commaItems (answer : {α : Type} → Construct α → Nat → Outcome α)
    (item : Reading (Option Tree)) (fs : List Token) {xs : List α} (hne : xs ≠ [])
    (hitem : ∀ x ∈ xs, ∀ i, Stands text i (tokens x) →
      Stops text (i + (tokens x).length) (symbolToken "," :: fs) →
      item.run text answer i = .ok (some (tree x), i + (tokens x).length))
    (hfs : ∀ t ∈ fs, isSymbol "," t = false) (h : Stands text i (commaTokens (xs.map tokens)))
    (hend : Stops text (i + (commaTokens (xs.map tokens)).length) fs) :
    (commaItems item).run text answer i =
      .ok (xs.map tree, i + (commaTokens (xs.map tokens)).length) := by
  obtain ⟨x, xs, rfl⟩ := List.exists_cons_of_ne_nil hne
  have hafter := stops_first h hend
  unfold commaTokens at h hend ⊢
  rw [separatedTokens_map] at h hend ⊢
  obtain ⟨hx, hxs⟩ := stands_append.mp h
  rw [List.length_append, ← Nat.add_assoc] at hend ⊢
  refine (run_bind_ok (hitem x List.mem_cons_self i hx hafter) _).trans ?_
  refine (run_loop (steps_separated id (fun items y => items ++ [tree y])
    (fun y hy items k hk hstop => ?_) (fun items k hk => ?_) [tree x] hxs hend) ?_).trans ?_
  · obtain ⟨hcomma, hk⟩ := hk
    rw [List.length_cons, ← Nat.add_assoc, Nat.add_right_comm] at hstop ⊢
    have hread := hitem y (List.mem_cons_of_mem _ hy) (k + 1) hk hstop
    refine (run_bind_ok (run_accepts _ hcomma rfl) _).trans ?_
    exact (run_bind_ok hread _).trans rfl
  · exact (run_bind_ok (run_accepts_none _ (hk.any hfs)) _).trans rfl
  · have hle := hxs.length_le
    omega
  · rw [foldl_snoc]
    rfl

/-- Operands with one operator between them. -/
theorem run_chain (answer : {α : Type} → Construct α → Nat → Outcome α)
    (operator : Reading (Option String)) (key : String) (item : Reading (Option Tree)) (fs : List Token)
    {sep : Token} {x : α} {xs : List α}
    (hoperator : ∀ i, text[i]? = some sep → operator.run text answer i = .ok (some key, i + 1))
    (hstop : ∀ i, Stops text i fs → operator.run text answer i = .ok (none, i))
    (hitem : ∀ y ∈ x :: xs, ∀ i, Stands text i (tokens y) →
      Stops text (i + (tokens y).length) (sep :: fs) →
      item.run text answer i = .ok (some (tree y), i + (tokens y).length))
    (h : Stands text i (separatedTokens sep ((x :: xs).map tokens)))
    (hend : Stops text (i + (separatedTokens sep ((x :: xs).map tokens)).length) fs) :
    (chain operator item).run text answer i =
      .ok (some (joinedTree key ((x :: xs).map tree)),
        i + (separatedTokens sep ((x :: xs).map tokens)).length) := by
  have hafter := stops_first h hend
  rw [separatedTokens_map] at h hend ⊢
  obtain ⟨hx, hxs⟩ := stands_append.mp h
  rw [List.length_append, ← Nat.add_assoc] at hend ⊢
  refine (run_bind_ok (hitem x List.mem_cons_self i hx hafter) _).trans ?_
  refine (run_loop (steps_separated some
    (fun left y => .node (.op key) "" [left, tree y]) (fun y hy left k hk hstop => ?_)
    (fun left k hk => ?_) (tree x) hxs hend) ?_).trans ?_
  · obtain ⟨hsep, hk⟩ := hk
    rw [List.length_cons, ← Nat.add_assoc, Nat.add_right_comm] at hstop ⊢
    have hread := hitem y (List.mem_cons_of_mem _ hy) (k + 1) hk hstop
    refine (run_bind_ok (hoperator k hsep) _).trans ?_
    exact (run_bind_ok ((run_bind_ok hread _).trans rfl) _).trans rfl
  · exact (run_bind_ok (hstop k hk) _).trans rfl
  · have hle := hxs.length_le
    omega
  · rw [List.map_cons, joinedTree, List.foldl_map]

end

end

end QueryGate
