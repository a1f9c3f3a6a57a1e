import QueryGate.Connection.Config
import QueryGate.Proofs.Json.Limits
/-! How the settings of a connection are read. They give a config or are an invalid payload, unless their bytes
are no text or their text is beyond a limit of the JSON reader. -/

namespace QueryGate

/-- A text that has to be read for a payload. -/
inductive SettingsPayload.Holds : SettingsPayload → String → Prop
  | text {s : String} (h : s.isEmpty = false) : Holds (.text s) s
  | bytes {bs : List UInt8} {s : String} (hbytes : bs.isEmpty = false) (h : decodeJsonBytes bs = .ok s) :
    Holds (.bytes bs) s

/-- A payload that is not read, and the fault that is raised in place of an invalid payload. -/
inductive SettingsPayload.Escapes : SettingsPayload → Fault → Prop
  | undecoded {bs : List UInt8} {e : DecodingError} (hbytes : bs.isEmpty = false) (h : decodeJsonBytes bs = .error e) :
    Escapes (.bytes bs) ⟨.unicode, e.message⟩
  | longInteger {payload : SettingsPayload} {s : String} {count position : Nat} {digits : List Char}
    (hholds : payload.Holds s) (h : Json.read s = .error ⟨.longInteger count, position⟩)
    (hlong : maxIntegerDigits < count) (hdigits : digits <:+: s.toList) (hcount : digits.length = count)
    (hall : ∀ c ∈ digits, isAsciiDigit c = true) : Escapes payload ⟨.value, (JsonFault.longInteger count).text⟩
  | deep {payload : SettingsPayload} {s : String} {fault : JsonFault} {position : Nat} (hholds : payload.Holds s)
    (h : Json.read s = .error ⟨fault, position⟩) (hfault : fault = .deepArray ∨ fault = .deepObject)
    (hdeep : maxJsonDepth < s.toList.countP isOpeningBracket) : Escapes payload ⟨.recursion, fault.text⟩

/-- The members of a payload, an invalid payload, or the fault with which it escapes. -/
inductive Decodes (payload : SettingsPayload) : Except Raised Json → Prop
  | ok (j : Json) : Decodes payload (.ok j)
  | invalid (message : String) : Decodes payload (invalidSettings message)
  | escapes {f : Fault} (h : payload.Escapes f) : Decodes payload (.error (.fault f))

theorem readSettingsText_decodes {payload : SettingsPayload} {s : String} (h : payload.Holds s) :
    Decodes payload (readSettingsText s) := by
  unfold readSettingsText
  cases hread : Json.read s with
  | ok j => exact .ok j
  | error e =>
    have hin := Json.read_isIn hread
    obtain ⟨fault, position⟩ := e
    cases fault with
    | longInteger count =>
      obtain ⟨hlong, digits, hdigits, hcount, hall⟩ := hin
      exact .escapes (.longInteger h hread hlong hdigits hcount hall)
    | deepArray =>
      exact .escapes (.deep h hread (Or.inl rfl) hin)
    | deepObject =>
      exact .escapes (.deep h hread (Or.inr rfl) hin)
    | _ => exact .invalid _

namespace SettingsPayload

theorem json_bytes {bs : List UInt8} (h : bs.isEmpty = false) : (bytes bs).json =
    match decodeJsonBytes bs with
    | .ok s => readSettingsText s
    | .error e => fault .unicode e.message :=
  if_neg (by simp [h])

theorem json_of_holds {payload : SettingsPayload} {s : String} (h : payload.Holds s) :
    payload.json = readSettingsText s := by
  cases h with
  | text hs => exact if_neg (by simp [hs])
  | bytes hbs hs => rw [json_bytes hbs, hs]

theorem json_undecoded {bs : List UInt8} {e : DecodingError} (hbs : bs.isEmpty = false)
    (h : decodeJsonBytes bs = .error e) : (bytes bs).json = .error (.fault ⟨.unicode, e.message⟩) := by
  rw [json_bytes hbs, h]
  rfl

theorem json_decodes (payload : SettingsPayload) : Decodes payload payload.json := by
  cases payload with
  | absent => exact .ok _
  | members m => exact .ok _
  | text s =>
    cases hs : s.isEmpty with
    | true =>
      have hjson : (text s).json = .ok (.object []) := if_pos hs
      exact hjson ▸ .ok _
    | false => exact json_of_holds (.text hs) ▸ readSettingsText_decodes (.text hs)
  | bytes bs =>
    cases hbs : bs.isEmpty with
    | true =>
      have hjson : (bytes bs).json = .ok (.object []) := if_pos hbs
      exact hjson ▸ .ok _
    | false =>
      cases hs : decodeJsonBytes bs with
      | ok s => exact json_of_holds (.bytes hbs hs) ▸ readSettingsText_decodes (.bytes hbs hs)
      | error e => exact json_undecoded hbs hs ▸ .escapes (.undecoded hbs hs)

/-- The fault with which a payload escapes is raised. -/
theorem Escapes.json_eq {payload : SettingsPayload} {f : Fault} (h : payload.Escapes f) :
    payload.json = .error (.fault f) := by
  cases h with
  | undecoded hbs he => exact json_undecoded hbs he
  | longInteger hholds hread =>
    rw [json_of_holds hholds, readSettingsText, hread]
    rfl
  | deep hholds hread hfault =>
    rw [json_of_holds hholds, readSettingsText, hread]
    rcases hfault with rfl | rfl <;> rfl

end SettingsPayload

/-- What is decoded gives a config or is an invalid payload. -/
theorem loadSettings_of_ok {payload : SettingsPayload} {j : Json} (h : payload.json = .ok j) (secrets : Members Json) :
    (∃ config, loadSettings payload secrets = .ok config) ∨
      ∃ message, loadSettings payload secrets = invalidSettings message := by
  have hinvalid : ∀ message, (∃ config, (invalidSettings message : Except Raised ConnectionConfig) = .ok config) ∨
      ∃ message', (invalidSettings message : Except Raised ConnectionConfig) = invalidSettings message' :=
    fun message => Or.inr ⟨message, rfl⟩
  unfold loadSettings
  rw [h]
  cases j with
  | object m =>
    dsimp only [bind, Except.bind]
    split
    · rename_i config _
      exact Or.inl ⟨config, rfl⟩
    · exact hinvalid _
  | _ => exact hinvalid _

theorem loadSettings_of_error {payload : SettingsPayload} {r : Raised} (h : payload.json = .error r)
    (secrets : Members Json) : loadSettings payload secrets = .error r := by
  unfold loadSettings
  rw [h]
  rfl

/-- Settings give a config, are an invalid payload, or escape with a fault. They escape just if their bytes are no
text, or if the text has an integer of too many digits or too many brackets inside one another where it is read. -/
theorem loadSettings_ends (payload : SettingsPayload) (secrets : Members Json) :
    ((∃ config, loadSettings payload secrets = .ok config) ∨
        (∃ f, loadSettings payload secrets = .error (.failure f) ∧ f.kind = .invalidPayload) ∨
        ∃ f, loadSettings payload secrets = .error (.fault f)) ∧
      ∀ f, loadSettings payload secrets = .error (.fault f) ↔ payload.Escapes f := by
  have hescapes : ∀ f, payload.Escapes f → loadSettings payload secrets = .error (.fault f) :=
    fun f h => loadSettings_of_error h.json_eq secrets
  have hends : (∃ config, loadSettings payload secrets = .ok config) ∨
      (∃ message, loadSettings payload secrets = invalidSettings message) ∨
      ∃ f, payload.Escapes f ∧ loadSettings payload secrets = .error (.fault f) := by
    have hdecodes := payload.json_decodes
    cases hjson : payload.json with
    | ok j => exact (loadSettings_of_ok hjson secrets).imp_right Or.inl
    | error r =>
      have hraised := loadSettings_of_error hjson secrets
      rw [hjson] at hdecodes
      cases hdecodes with
      | invalid message => exact Or.inr (Or.inl ⟨message, hraised⟩)
      | escapes h => exact Or.inr (Or.inr ⟨_, h, hraised⟩)
  rcases hends with ⟨config, hok⟩ | ⟨message, hinvalid⟩ | ⟨f, hf, hfault⟩
  · refine ⟨Or.inl ⟨config, hok⟩, fun f => ⟨fun h => ?_, hescapes f⟩⟩
    rw [hok] at h
    cases h
  · refine ⟨Or.inr (Or.inl ⟨_, hinvalid, rfl⟩), fun f => ⟨fun h => ?_, hescapes f⟩⟩
    rw [hinvalid] at h
    cases h
  · refine ⟨Or.inr (Or.inr ⟨f, hfault⟩), fun f' => ⟨fun h => ?_, hescapes f'⟩⟩
    rw [hfault] at h
    cases h
    exact hf

/-- A byte that begins no character is malformed, but no invalid payload. -/
theorem loadSettings_escapes :
    loadSettings (.bytes [0xff]) [] =
      .error (.fault ⟨.unicode, "'utf-8' codec can't decode byte 0xff in position 0: invalid start byte"⟩) := by
  rfl

end QueryGate
