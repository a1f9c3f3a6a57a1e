import Mathlib.Data.List.Forall2
import QueryGate.Connection.Dialect
import QueryGate.Connection.EngineScript
import QueryGate.Proofs.Connection.Ledger
import QueryGate.Proofs.Connection.Likeness
import QueryGate.Proofs.Payload.Field
/-! What can be seen of a credential. Two configs that were read from one payload with two tokens show
the same of themselves, and handles with these configs, over engines that behave alike, do the same. -/

namespace QueryGate

/-! Readings that differ in their values alone. -/

namespace Checked

variable {α β α₁ α₂ β₁ β₂ : Type}

/-- Two values that are related, or the same issues twice. -/
inductive Alike (Q : α₁ → α₂ → Prop) : Checked α₁ → Checked α₂ → Prop
  | ok {x : α₁} {y : α₂} : Q x y → Alike Q (.ok x) (.ok y)
  | wrong (i : Issue) (is : List Issue) : Alike Q (.wrong i is) (.wrong i is)

theorem Alike.refl (a : Checked α) : Alike Eq a a := by
  cases a with
  | ok x => exact .ok rfl
  | wrong i is => exact .wrong i is

variable {P : α₁ → α₂ → Prop} {Q : β₁ → β₂ → Prop}

theorem Alike.map {f : α₁ → β₁} {g : α₂ → β₂} (hf : ∀ x y, P x y → Q (f x) (g y)) {a : Checked α₁}
    {b : Checked α₂} (h : Alike P a b) : Alike Q (f <$> a) (g <$> b) := by
  cases h with
  | ok hxy => exact .ok (hf _ _ hxy)
  | wrong i is => exact .wrong i is

theorem Alike.seq {f : Checked (α₁ → β₁)} {g : Checked (α₂ → β₂)} {a : Checked α₁} {b : Checked α₂}
    (hf : Alike (fun f g => ∀ x y, P x y → Q (f x) (g y)) f g) (h : Alike P a b) :
    Alike Q (f <*> a) (g <*> b) := by
  cases hf with
  | ok hf =>
    cases h with
    | ok hxy => exact .ok (hf _ _ hxy)
    | wrong i is => exact .wrong i is
  | wrong i is =>
    cases h with
    | ok _ => exact .wrong i is
    | wrong j js => exact .wrong i (is ++ j :: js)

end Checked

/-- Two configs with the given credentials that are the same otherwise. -/
def DifferInCredential (t₁ t₂ : String) (c₁ c₂ : ConnectionConfig) : Prop :=
  c₁.credential = t₁ ∧ c₂ = { c₁ with credential := t₂ }

theorem ConnectionConfig.read_put (m : Members Json) (t₁ t₂ : String) :
    Checked.Alike (DifferInCredential t₁ t₂) (ConnectionConfig.read (.object (m.put "credential" (.string t₁))))
      (ConnectionConfig.read (.object (m.put "credential" (.string t₂)))) := by
  have hsame : ∀ {α : Type} (names : List String) (default : α) (read : Json → Checked α),
      "credential" ∉ names →
      Checked.Alike Eq (fieldOr (m.put "credential" (.string t₁)) names default read)
        (fieldOr (m.put "credential" (.string t₂)) names default read) := by
    intro α names default read hnames
    rw [fieldOr_put m hnames, fieldOr_put m hnames]
    exact .refl _
  have hcredential : Checked.Alike (fun x y => x = t₁ ∧ y = t₂)
      (fieldOr (m.put "credential" (.string t₁)) ["credential"] "" readText)
      (fieldOr (m.put "credential" (.string t₂)) ["credential"] "" readText) := by
    simp only [fieldOr, firstMember, Members.find?_put, if_true]
    exact .ok ⟨rfl, rfl⟩
  simp only [ConnectionConfig.read, readRecord, Checked.andThen]
  refine .seq (P := Eq) ?_ (hsame _ _ _ (by decide))
  refine .seq (P := Eq) ?_ (hsame _ _ _ (by decide))
  refine .seq (P := Eq) ?_ (hsame _ _ _ (by decide))
  refine .seq (P := Eq) ?_ (hsame _ _ _ (by decide))
  refine .seq (P := Eq) ?_ (hsame _ _ _ (by decide))
  refine .seq (P := Eq) ?_ (hsame _ _ _ (by decide))
  refine .seq (P := Eq) ?_ (hsame _ _ _ (by decide))
  refine .seq ?_ hcredential
  refine .seq (P := Eq) ?_ (hsame _ _ _ (by decide))
  refine .seq (P := Eq) ?_ (hsame _ _ _ (by decide))
  refine .map (P := Eq) ?_ (hsame _ _ _ (by decide))
  rintro host _ rfl path _ rfl catalog _ rfl t _ ⟨rfl, rfl⟩ cap _ rfl timeout _ rfl count _ rfl pause _ rfl
    total _ rfl url _ rfl debug _ rfl
  exact ⟨rfl, rfl⟩

/-- Loading fails alike, or gives configs that differ in their credentials. -/
theorem loadSettings_alike (payload : SettingsPayload) (t₁ t₂ : String) :
    (∃ r, loadSettings payload [("token", .string t₁)] = .error r ∧
        loadSettings payload [("token", .string t₂)] = .error r) ∨
      ∃ c₁ c₂, loadSettings payload [("token", .string t₁)] = .ok c₁ ∧
        loadSettings payload [("token", .string t₂)] = .ok c₂ ∧ DifferInCredential t₁ t₂ c₁ c₂ := by
  have htoken : ∀ t : String, (Members.find? [("token", Json.string t)] "token").getD (.string "") =
      .string t := by
    intro t
    rw [Members.find?_cons, if_pos rfl]
    rfl
  unfold loadSettings
  cases payload.json with
  | error r => exact Or.inl ⟨r, rfl, rfl⟩
  | ok j =>
    cases j with
    | object m =>
      dsimp only [bind, Except.bind]
      rw [htoken, htoken]
      have hread := ConnectionConfig.read_put m t₁ t₂
      generalize ConnectionConfig.read (.object (Members.put m "credential" (.string t₁))) = a₁ at hread ⊢
      generalize ConnectionConfig.read (.object (Members.put m "credential" (.string t₂))) = a₂ at hread ⊢
      cases hread with
      | ok h => exact Or.inr ⟨_, _, rfl, rfl, h⟩
      | wrong i is => exact Or.inl ⟨_, rfl, rfl⟩
    | _ => exact Or.inl ⟨_, rfl, rfl⟩

namespace DifferInCredential

variable {t₁ t₂ : String} {c₁ c₂ : ConnectionConfig}

theorem name_eq (h : DifferInCredential t₁ t₂ c₁ c₂) : c₁.name = c₂.name := by
  rw [h.2]
  rfl

theorem toJson_eq (h : DifferInCredential t₁ t₂ c₁ c₂) : c₁.toJson = c₂.toJson := by
  rw [h.2]
  rfl

/-- The description tells only whether there is a credential. -/
theorem description_eq (h : DifferInCredential t₁ t₂ c₁ c₂) (h₁ : t₁ ≠ "") (h₂ : t₂ ≠ "") :
    c₁.description = c₂.description := by
  have hfilled : c₁.credential.isEmpty = false := by
    rw [h.1]
    simpa using h₁
  have hfilled' : c₂.credential.isEmpty = false := by
    rw [h.2]
    simpa using h₂
  unfold ConnectionConfig.description
  rw [hfilled, hfilled', h.2]

theorem poolPlan_eq (h : DifferInCredential t₁ t₂ c₁ c₂) : PoolPlan.ofConfig c₁ = PoolPlan.ofConfig c₂ := by
  rw [h.2]
  rfl

end DifferInCredential

theorem urlDriver_of_named {driver : String} (hne : driver.toList ≠ [])
    (hnamed : ∀ c ∈ driver.toList, (isWordChar c || c = '+') = true) (rest : String) :
    urlDriver? (driver ++ "://" ++ rest) = some driver := by
  have hcolon : isWordChar ':' = false := by decide +kernel
  have htext : (driver ++ "://" ++ rest).toList = driver.toList ++ ':' :: ("//".toList ++ rest.toList) := by
    simp
  have hname : (driver ++ "://" ++ rest).toList.takeWhile (fun c => isWordChar c || c = '+') =
      driver.toList := by
    rw [htext, List.takeWhile_append_of_pos hnamed, List.takeWhile_cons_of_neg (by simp [hcolon]),
      List.append_nil]
  have hmark : (driver ++ "://" ++ rest).toList.dropWhile (fun c => isWordChar c || c = '+') =
      ':' :: ("//".toList ++ rest.toList) := by
    rw [htext, List.dropWhile_append_of_pos hnamed, List.dropWhile_cons_of_neg (by simp [hcolon])]
  unfold urlDriver?
  dsimp only
  rw [hname, hmark]
  simp [hne]

theorem urlDriver_databricks (rest : String) :
    urlDriver? ("databricks://token:" ++ rest) = some "databricks" := by
  have hnamed : ∀ c ∈ "databricks".toList, (isWordChar c || c = '+') = true :=
    List.all_eq_true.mp (by decide +kernel)
  have hdriver := urlDriver_of_named (by decide) hnamed ("token:" ++ rest)
  rwa [← String.append_assoc] at hdriver

/-- Making the engine goes alike: the driver that the URL asks for does not depend on the credential. -/
theorem DifferInCredential.createEngine_eq {σ : Type} {t₁ t₂ : String} {c₁ c₂ : ConnectionConfig}
    (h : DifferInCredential t₁ t₂ c₁ c₂) : (createEngine c₁ : Act σ String) = createEngine c₂ := by
  have hdriver : urlDriver? c₁.engineUrl = urlDriver? c₂.engineUrl := by
    have hsame : c₂.url = c₁.url := by rw [h.2]
    unfold ConnectionConfig.engineUrl
    rw [hsame]
    cases c₁.url.filter (!·.isEmpty) with
    | some url => rfl
    | none => simp only [String.append_assoc, urlDriver_databricks]
  unfold createEngine engineDialect
  rw [hdriver, h.name_eq]

/-- Nothing is seen of a credential but that there is one: not in loading a config, in its texts or its data,
in making its engine, nor in what a handle with it answers, raises or logs. -/
theorem credential_unseen (payload : SettingsPayload) {t₁ t₂ : String} (h₁ : t₁ ≠ "") (h₂ : t₂ ≠ "") :
    (∃ r, loadSettings payload [("token", .string t₁)] = .error r ∧
        loadSettings payload [("token", .string t₂)] = .error r) ∨
      ∃ c₁ c₂, loadSettings payload [("token", .string t₁)] = .ok c₁ ∧
        loadSettings payload [("token", .string t₂)] = .ok c₂ ∧
        c₁.name = c₂.name ∧ c₁.description = c₂.description ∧ c₁.toJson = c₂.toJson ∧
        handleName c₁ = handleName c₂ ∧ (∀ σ : Type, (createEngine c₁ : Act σ String) = createEngine c₂) ∧
        ∀ {ω₁ ω₂ : Type} (R : ω₁ → ω₂ → Prop) (e₁ : Engine ω₁ Float) (e₂ : Engine ω₂ Float),
          Engine.Alike R e₁ e₂ → ∀ w₁ w₂, R w₁ w₂ → ∀ circuit log trace calls,
            seen e₁ (.ofConfig c₁) [] calls ⟨.start w₁ circuit, log, trace⟩ =
              seen e₂ (.ofConfig c₂) [] calls ⟨.start w₂ circuit, log, trace⟩ := by
  rcases loadSettings_alike payload t₁ t₂ with herror | ⟨c₁, c₂, hc₁, hc₂, hdiffer⟩
  · exact Or.inl herror
  · refine Or.inr ⟨c₁, c₂, hc₁, hc₂, hdiffer.name_eq, hdiffer.description_eq h₁ h₂, hdiffer.toJson_eq, ?_,
      fun _ => hdiffer.createEngine_eq, ?_⟩
    · exact congrArg (fun name => "SqlAlchemyConnectionHandle(" ++ name ++ ")") hdiffer.name_eq
    · intro ω₁ ω₂ R e₁ e₂ halike w₁ w₂ hw circuit log trace calls
      rw [hdiffer.poolPlan_eq]
      exact seen_alike halike _ calls .nil ⟨⟨hw, rfl, rfl, rfl, rfl⟩, rfl, rfl⟩

/-- A ledger beside an engine changes nothing in its behaviour. -/
theorem Engine.recorded_alike {ω : Type} (e : Engine ω Float) :
    Engine.Alike (fun (w : ω × Ledger) v => w.1 = v) e.recorded e where
  now := by rintro w _ rfl; rfl
  turn := by rintro w _ rfl; rfl
  columns := by rintro result w _ rfl; rfl
  fetchesLeft := by rintro result w _ rfl; rfl
  sleep := by rintro t w _ rfl; rfl
  wait := by rintro t w _ rfl; rfl
  begin := by rintro w _ rfl; rfl
  dispose := by rintro w _ rfl; rfl
  connect := by rintro w _ rfl; exact ⟨rfl, rfl⟩
  run := by rintro connection sql w _ rfl; exact ⟨rfl, rfl⟩
  fetch := by rintro result size w _ rfl; exact ⟨rfl, rfl⟩
  closeResult := by rintro result w _ rfl; exact ⟨rfl, rfl⟩
  closeConnection := by rintro connection w _ rfl; exact ⟨rfl, rfl⟩

theorem credential_unseen_recorded :
    let payload := SettingsPayload.members
      [("host", .string "adb.example"), ("credential", .string "given"), ("maxRows", .int 5)]
    "first" ≠ "" ∧ "second" ≠ "" ∧
      ∃ c₁ c₂, loadSettings payload [("token", .string "first")] = .ok c₁ ∧
        loadSettings payload [("token", .string "second")] = .ok c₂ ∧
        c₁.credential = "first" ∧ c₂.credential = "second" ∧ c₁.description = c₂.description ∧
        ∀ (w : ScriptedEngine Float) circuit log trace calls,
          seen ScriptedEngine.engine.recorded (.ofConfig c₁) [] calls
              ⟨.start (w, ⟨[], []⟩) circuit, log, trace⟩ =
            seen ScriptedEngine.engine (.ofConfig c₂) [] calls ⟨.start w circuit, log, trace⟩ := by
  intro payload
  have hloaded : ∀ t, ∃ c, loadSettings payload [("token", .string t)] = .ok c ∧ c.credential = t :=
    fun t => ⟨_, rfl, rfl⟩
  obtain ⟨c, hc, hfirst⟩ := hloaded "first"
  obtain ⟨c', hc', hsecond⟩ := hloaded "second"
  have hne₁ : "first" ≠ "" := by decide
  have hne₂ : "second" ≠ "" := by decide
  refine ⟨hne₁, hne₂, c, c', hc, hc', hfirst, hsecond, ?_⟩
  rcases credential_unseen payload hne₁ hne₂ with ⟨r, hr, -⟩ | ⟨c₁, c₂, hc₁, hc₂, -, hdescription, -, -, -, hseen⟩
  · rw [hc] at hr
    cases hr
  · obtain rfl := Except.ok.inj (hc.symm.trans hc₁)
    obtain rfl := Except.ok.inj (hc'.symm.trans hc₂)
    refine ⟨hdescription, fun w circuit log trace calls => ?_⟩
    exact hseen _ _ _ (Engine.recorded_alike _) (w, ⟨[], []⟩) w rfl circuit log trace calls

end QueryGate
