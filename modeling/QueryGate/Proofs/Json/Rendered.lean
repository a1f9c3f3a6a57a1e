import Mathlib.Data.List.Forall2
import QueryGate.Proofs.Json.Members
import QueryGate.Proofs.Json.Numerals
/-! Values written as JSON text and read again. What closes a value is seen behind each of its parts, so that the
reader takes the parts one by one as they were written. -/

namespace QueryGate

/-- A mark between two parts, possibly with blanks behind it. -/
def IsMark (mark : Char) (text : String) : Prop :=
  ∃ blanks, text.toList = mark :: blanks ∧ ∀ c ∈ blanks, isJsonBlank c = true

theorem isMark_length {mark : Char} {text : String} (h : IsMark mark text) : 0 < text.toList.length := by
  obtain ⟨blanks, htext, -⟩ := h
  rw [htext]
  exact Nat.zero_lt_succ _

structure JsonLayout.IsStandard (layout : JsonLayout) : Prop where
  comma : IsMark ',' layout.comma
  colon : IsMark ':' layout.colon

theorem JsonLayout.isStandard_spaced : JsonLayout.spaced.IsStandard :=
  ⟨⟨[' '], rfl, List.all_eq_true.mp (by decide)⟩, ⟨[' '], rfl, List.all_eq_true.mp (by decide)⟩⟩

theorem JsonLayout.isStandard_compact : JsonLayout.compact.IsStandard :=
  ⟨⟨[], rfl, List.forall_mem_nil _⟩, ⟨[], rfl, List.forall_mem_nil _⟩⟩

/-- What is read from the text of a value whose arrays and objects stand in so much room: the value itself, but for the
numbers of floating-point texts, and for members that share a name, of which the last counts. -/
inductive Json.ReadsAs : Nat → Json → Json → Prop
  | null (room : Nat) : ReadsAs room .null .null
  | bool (room : Nat) (b : Bool) : ReadsAs room (.bool b) (.bool b)
  | int (room : Nat) {n : Int} (h : n.natAbs < tenTo maxIntegerDigits) : ReadsAs room (.int n) (.int n)
  | float (room : Nat) (x : Float) : ReadsAs room (.float x) (.float (rereadFloat x))
  | string (room : Nat) (s : String) : ReadsAs room (.string s) (.string s)
  | array {room : Nat} {items parts : List Json} (hlength : items.length = parts.length)
    (h : ∀ p ∈ items.zip parts, ReadsAs room p.1 p.2) : ReadsAs (room + 1) (.array items) (.array parts)
  | object {room : Nat} {members parts : Members Json} (hlength : members.length = parts.length)
    (hnames : ∀ p ∈ members.zip parts, p.1.1 = p.2.1) (h : ∀ p ∈ members.zip parts, ReadsAs room p.1.2 p.2.2) :
    ReadsAs (room + 1) (.object members) (.object (Members.ofList parts))

namespace Json.ReadsAs

variable {room : Nat}

theorem mono {limit : Nat} {j read : Json} (h : j.ReadsAs room read) (hlimit : room ≤ limit) : j.ReadsAs limit read := by
  induction h generalizing limit with
  | null => exact .null limit
  | bool _ b => exact .bool limit b
  | int _ h => exact .int limit h
  | float _ x => exact .float limit x
  | string _ s => exact .string limit s
  | array hlength _ ih =>
    obtain ⟨limit, rfl⟩ := Nat.exists_eq_succ_of_ne_zero (Nat.ne_of_gt (Nat.zero_lt_of_lt hlimit))
    exact .array hlength fun p hp => ih p hp (Nat.le_of_succ_le_succ hlimit)
  | object hlength hnames _ ih =>
    obtain ⟨limit, rfl⟩ := Nat.exists_eq_succ_of_ne_zero (Nat.ne_of_gt (Nat.zero_lt_of_lt hlimit))
    exact .object hlength hnames fun p hp => ih p hp (Nat.le_of_succ_le_succ hlimit)

theorem eq_of_string {s : String} {read : Json} (h : (Json.string s).ReadsAs room read) : read = .string s := by
  cases h
  rfl

theorem array_of_forall₂ {items parts : List Json} (h : List.Forall₂ (ReadsAs room) items parts) :
    (Json.array items).ReadsAs (room + 1) (.array parts) := by
  obtain ⟨hlength, hzip⟩ := List.forall₂_iff_zip.mp h
  exact .array hlength fun p hp => hzip hp

theorem object_of_forall₂ {members parts : Members Json}
    (h : List.Forall₂ (fun m p => m.1 = p.1 ∧ m.2.ReadsAs room p.2) members parts) :
    (Json.object members).ReadsAs (room + 1) (.object (Members.ofList parts)) := by
  obtain ⟨hlength, hzip⟩ := List.forall₂_iff_zip.mp h
  exact .object hlength (fun p hp => (hzip hp).1) fun p hp => (hzip hp).2

theorem array_self {items : List Json} (h : ∀ item ∈ items, item.ReadsAs room item) :
    (Json.array items).ReadsAs (room + 1) (.array items) :=
  array_of_forall₂ (List.forall₂_same.mpr h)

theorem object_self {members : Members Json} (hnames : (members.map Prod.fst).Nodup)
    (h : ∀ m ∈ members, m.2.ReadsAs room m.2) : (Json.object members).ReadsAs (room + 1) (.object members) := by
  have hobject := object_of_forall₂ (List.forall₂_same.mpr fun m hm => ⟨rfl, h m hm⟩)
  rwa [Members.ofList_of_nodup hnames] at hobject

end Json.ReadsAs

/-! Whole values. -/

/-- How the text of a value starts. -/
def StartsValue (cs : List Char) : Prop :=
  ∃ c rest, cs = c :: rest ∧ isJsonBlank c = false ∧ c ≠ ']' ∧ c ≠ '\x7d' ∧ c ≠ '\ufeff'

theorem StartsValue.append {cs : List Char} (h : StartsValue cs) (rest : List Char) : StartsValue (cs ++ rest) := by
  obtain ⟨c, more, rfl, hc⟩ := h
  exact ⟨c, more ++ rest, rfl, hc⟩

theorem StartsValue.skipJsonBlanks {cs : List Char} (h : StartsValue cs) {blanks : List Char}
    (hblanks : ∀ c ∈ blanks, isJsonBlank c = true) (rest : List Char) :
    skipJsonBlanks (blanks ++ (cs ++ rest)) = cs ++ rest := by
  obtain ⟨c, more, rfl, hc, -⟩ := h
  rw [QueryGate.skipJsonBlanks, List.dropWhile_append_of_pos hblanks]
  exact skipJsonBlanks_cons hc _

def itemChars (layout : JsonLayout) (items : List Json) : List Char :=
  (layout.comma.intercalate (renderItems layout items)).toList

def memberChars (layout : JsonLayout) (members : Members Json) : List Char :=
  (layout.comma.intercalate (renderMembers layout members)).toList

section Layout

variable (layout : JsonLayout)

theorem toList_quoted (s : String) :
    (layout.quoted s).toList = '"' :: (s.toList.flatMap (jsonCharChars layout.ascii) ++ ['"']) := by
  rw [JsonLayout.quoted, String.toList_ofList, jsonStringChars]

theorem toList_render_array (items : List Json) :
    ((Json.array items).render layout).toList = '[' :: (itemChars layout items ++ [']']) := by
  simp [Json.render, itemChars]

theorem toList_render_object (members : Members Json) :
    ((Json.object members).render layout).toList = '\x7b' :: (memberChars layout members ++ ['\x7d']) := by
  simp [Json.render, memberChars]

theorem itemChars_singleton (item : Json) : itemChars layout [item] = (item.render layout).toList := by
  simp [itemChars, renderItems]

theorem itemChars_cons_cons (item next : Json) (items : List Json) : itemChars layout (item :: next :: items) =
    (item.render layout).toList ++ (layout.comma.toList ++ itemChars layout (next :: items)) := by
  simp [itemChars, renderItems]

theorem memberChars_singleton (name : String) (value : Json) : memberChars layout [(name, value)] =
    (layout.quoted name).toList ++ (layout.colon.toList ++ (value.render layout).toList) := by
  simp [memberChars, renderMembers]

theorem memberChars_cons_cons (name : String) (value : Json) (next : String × Json) (members : Members Json) :
    memberChars layout ((name, value) :: next :: members) = (layout.quoted name).toList ++ (layout.colon.toList ++
      ((value.render layout).toList ++ (layout.comma.toList ++ memberChars layout (next :: members)))) := by
  simp [memberChars, renderMembers]

theorem startsValue_render {room : Nat} {j read : Json} (h : j.ReadsAs room read) : StartsValue (j.render layout).toList := by
  cases h with
  | null =>
    rw [Json.render]
    exact ⟨'n', _, rfl, by decide⟩
  | bool room b =>
    rw [Json.render]
    cases b
    · exact ⟨'f', _, rfl, by decide⟩
    · exact ⟨'t', _, rfl, by decide⟩
  | @int _ n h =>
    obtain ⟨c, more, hhead, -⟩ := toDigits_head n.natAbs
    have hc : isAsciiDigit c = true := isAsciiDigit_of_mem_toDigits (hhead ▸ List.mem_cons_self)
    rw [Json.render, toList_intText, hhead, signChars]
    split
    · exact ⟨'-', _, rfl, by decide⟩
    · exact ⟨c, more, rfl, of_isAsciiDigit (p := fun c => isJsonBlank c = false ∧ c ≠ ']' ∧ c ≠ '\x7d' ∧ c ≠ '\ufeff')
        (by decide) hc⟩
  | float room x =>
    have hform := FloatLayout.json.textForm x
    rw [Json.render]
    generalize (FloatLayout.json.text x).toList = cs at hform ⊢
    cases hform with
    | nan => exact ⟨'N', _, rfl, by decide⟩
    | infinite negative =>
      cases negative
      · exact ⟨'I', _, rfl, by decide⟩
      · exact ⟨'-', _, rfl, by decide⟩
    | decimal negative h =>
      obtain ⟨c, more, rfl, hc⟩ := h.head
      cases negative
      · exact ⟨c, more, rfl, of_isAsciiDigit
          (p := fun c => isJsonBlank c = false ∧ c ≠ ']' ∧ c ≠ '\x7d' ∧ c ≠ '\ufeff') (by decide) hc⟩
      · exact ⟨'-', _, rfl, by decide⟩
  | string room s =>
    rw [Json.render, toList_quoted]
    exact ⟨'"', _, rfl, by decide⟩
  | array =>
    rw [toList_render_array]
    exact ⟨'[', _, rfl, by decide⟩
  | object =>
    rw [toList_render_object]
    exact ⟨'\x7b', _, rfl, by decide⟩

theorem startsValue_itemChars {room : Nat} {item part : Json} (h : item.ReadsAs room part) (items : List Json) :
    StartsValue (itemChars layout (item :: items)) := by
  cases items with
  | nil => exact itemChars_singleton layout item ▸ startsValue_render layout h
  | cons next items =>
    rw [itemChars_cons_cons]
    exact (startsValue_render layout h).append _

theorem startsValue_memberChars (m : String × Json) (members : Members Json) :
    StartsValue (memberChars layout (m :: members)) := by
  obtain ⟨name, value⟩ := m
  have hquoted : StartsValue (layout.quoted name).toList := by
    rw [toList_quoted]
    exact ⟨'"', _, rfl, by decide⟩
  cases members with
  | nil => exact memberChars_singleton layout name value ▸ hquoted.append _
  | cons next members =>
    rw [memberChars_cons_cons]
    exact hquoted.append _

theorem readJsonValue_string (fuel room : Nat) (s : String) (rest : List Char) :
    readJsonValue (fuel + 1) room ((layout.quoted s).toList ++ rest) = .ok (.string s, rest) := by
  rw [toList_quoted, List.cons_append, List.append_assoc, List.singleton_append, readJsonValue, readJsonString_quoted]
  rfl

end Layout

/-! One step of the reader. -/

theorem IsMark.toList_append {mark : Char} {text : String} (h : IsMark mark text) (hmark : isJsonBlank mark = false)
    {cs : List Char} (hcs : StartsValue cs) (rest : List Char) :
    ∃ behind, skipJsonBlanks (text.toList ++ (cs ++ rest)) = mark :: behind ∧ skipJsonBlanks behind = cs ++ rest := by
  obtain ⟨blanks, htext, hblanks⟩ := h
  refine ⟨blanks ++ (cs ++ rest), ?_, hcs.skipJsonBlanks hblanks rest⟩
  rw [htext, List.cons_append, skipJsonBlanks_cons hmark]

section Steps

variable {fuel room : Nat} {cs rest : List Char}

theorem readJsonValue_array (h : StartsValue cs) :
    readJsonValue (fuel + 1) (room + 1) ('[' :: cs) = readJsonItems fuel room [] cs := by
  obtain ⟨c, more, rfl, hblank, hclose, -⟩ := h
  rw [readJsonValue, if_neg (Nat.succ_ne_zero room), skipJsonBlanks_cons hblank]
  split
  · rename_i heq
    exact absurd (List.cons.inj heq).1 hclose
  · rfl

theorem readJsonValue_object (h : StartsValue cs) :
    readJsonValue (fuel + 1) (room + 1) ('\x7b' :: cs) = readJsonMembers fuel room [] cs := by
  obtain ⟨c, more, rfl, hblank, -, hclose, -⟩ := h
  rw [readJsonValue, if_neg (Nat.succ_ne_zero room), skipJsonBlanks_cons hblank]
  split
  · rename_i heq
    exact absurd (List.cons.inj heq).1 hclose
  · rfl

theorem readJsonItems_closed {item : Json} (done : List Json)
    (hitem : readJsonValue fuel room cs = .ok (item, ']' :: rest)) :
    readJsonItems (fuel + 1) room done cs = .ok (.array (done.reverse ++ [item]), rest) := by
  rw [readJsonItems, hitem]
  simp only [bind, Except.bind]
  rw [skipJsonBlanks_cons (by decide), List.reverse_cons]
  rfl

theorem readJsonItems_continued {item : Json} {after behind next : List Char} (done : List Json)
    (hitem : readJsonValue fuel room cs = .ok (item, after)) (hcomma : skipJsonBlanks after = ',' :: behind)
    (hnext : skipJsonBlanks behind = next) :
    readJsonItems (fuel + 1) room done cs = readJsonItems fuel room (item :: done) next := by
  rw [readJsonItems, hitem]
  simp only [bind, Except.bind, hcomma, hnext]

end Steps

section Layout

variable {layout : JsonLayout} (hlayout : layout.IsStandard) {fuel room : Nat}

include hlayout

theorem readJsonMembers_closed (done : Members Json) (name : String) {value part : Json}
    (hvalue : value.ReadsAs room part) {rest : List Char}
    (hread : readJsonValue fuel room ((value.render layout).toList ++ '\x7d' :: rest) = .ok (part, '\x7d' :: rest)) :
    readJsonMembers (fuel + 1) room done ((layout.quoted name).toList ++
      (layout.colon.toList ++ ((value.render layout).toList ++ '\x7d' :: rest))) =
      .ok (.object (done.put name part), rest) := by
  obtain ⟨behind, hcolon, hbehind⟩ :=
    hlayout.colon.toList_append (by decide) (startsValue_render layout hvalue) ('\x7d' :: rest)
  rw [toList_quoted, List.cons_append, List.append_assoc, List.singleton_append, readJsonMembers, readJsonString_quoted]
  simp only [bind, Except.bind, hcolon, hbehind, hread]
  rw [skipJsonBlanks_cons (by decide)]
  rfl

theorem readJsonMembers_continued (done : Members Json) (name : String) {value part : Json}
    (hvalue : value.ReadsAs room part) {rest behind next : List Char}
    (hread : readJsonValue fuel room ((value.render layout).toList ++ rest) = .ok (part, rest)) (hcomma : skipJsonBlanks rest = ',' :: behind) (hnext : skipJsonBlanks behind = next) :
    readJsonMembers (fuel + 1) room done ((layout.quoted name).toList ++
      (layout.colon.toList ++ ((value.render layout).toList ++ rest))) =
      readJsonMembers fuel room (done.put name part) next := by
  obtain ⟨start, hcolon, hstart⟩ := hlayout.colon.toList_append (by decide) (startsValue_render layout hvalue) rest
  rw [toList_quoted, List.cons_append, List.append_assoc, List.singleton_append, readJsonMembers, readJsonString_quoted]
  simp only [bind, Except.bind, hcolon, hstart, hread, hcomma, hnext]

theorem endsValue_comma (cs : List Char) : EndsValue (layout.comma.toList ++ cs) := by
  obtain ⟨blanks, hcomma, -⟩ := hlayout.comma
  rw [hcomma]
  exact endsValue_cons (.inl rfl) _

theorem readJson_rendered (fuel : Nat) :
    (∀ {room : Nat} {j read : Json} {rest : List Char}, j.ReadsAs room read → EndsValue rest →
      2 * (j.render layout).toList.length + 1 ≤ fuel →
      readJsonValue fuel room ((j.render layout).toList ++ rest) = .ok (read, rest)) ∧
    (∀ {room : Nat} {item part : Json} {items parts : List Json} (done : List Json) (rest : List Char),
      item.ReadsAs room part → List.Forall₂ (Json.ReadsAs room) items parts →
      2 * (itemChars layout (item :: items)).length + 2 ≤ fuel →
      readJsonItems fuel room done (itemChars layout (item :: items) ++ ']' :: rest) =
        .ok (.array (done.reverse ++ part :: parts), rest)) ∧
    ∀ {room : Nat} {name : String} {value part : Json} {members parts : Members Json} (done : Members Json)
      (rest : List Char), value.ReadsAs room part →
      List.Forall₂ (fun m p => m.1 = p.1 ∧ m.2.ReadsAs room p.2) members parts →
      2 * (memberChars layout ((name, value) :: members)).length + 2 ≤ fuel →
      readJsonMembers fuel room done (memberChars layout ((name, value) :: members) ++ '\x7d' :: rest) =
        .ok (.object ((done.put name part).putAll parts), rest) := by
  induction fuel with
  | zero =>
    refine ⟨?_, ?_, ?_⟩
    · intro room j read rest _ _ hfuel
      omega
    · intro room item part items parts done rest _ _ hfuel
      omega
    · intro room name value part members parts done rest _ _ hfuel
      omega
  | succ fuel ih =>
    obtain ⟨ihvalue, ihitems, ihmembers⟩ := ih
    refine ⟨?_, ?_, ?_⟩
    · intro room j read rest hreads hrest hfuel
      cases hreads with
      | null =>
        rw [Json.render]
        rfl
      | bool room b =>
        rw [Json.render]
        cases b
        · rfl
        · rfl
      | int room h =>
        rw [Json.render]
        exact readJsonValue_int fuel room h hrest
      | float room x =>
        rw [Json.render]
        exact readJsonValue_float fuel room x hrest
      | string room s =>
        rw [Json.render]
        exact readJsonValue_string layout fuel room s rest
      | @array room items parts hlength h =>
        have hall : List.Forall₂ (Json.ReadsAs room) items parts := List.forall₂_iff_zip.mpr ⟨hlength, h _⟩
        rw [toList_render_array] at hfuel ⊢
        simp only [List.length_cons, List.length_append, List.length_nil] at hfuel
        rw [List.cons_append, List.append_assoc, List.singleton_append]
        cases hall with
        | nil => rfl
        | @cons item part items parts hitem hitems =>
          have hstart := startsValue_itemChars layout hitem items
          rw [readJsonValue_array (hstart.append _), ihitems [] rest hitem hitems (by omega)]
          rfl
      | @object room members parts hlength hnames h =>
        have hall : List.Forall₂ (fun m p => m.1 = p.1 ∧ m.2.ReadsAs room p.2) members parts :=
          List.forall₂_iff_zip.mpr ⟨hlength, fun hp => ⟨hnames _ hp, h _ hp⟩⟩
        rw [toList_render_object] at hfuel ⊢
        simp only [List.length_cons, List.length_append, List.length_nil] at hfuel
        rw [List.cons_append, List.append_assoc, List.singleton_append]
        cases hall with
        | nil => rfl
        | @cons m p members parts hm hmembers =>
          obtain ⟨name, value⟩ := m
          obtain ⟨name', part⟩ := p
          obtain ⟨rfl, hvalue⟩ : name = name' ∧ value.ReadsAs room part := hm
          rw [readJsonValue_object ((startsValue_memberChars layout (name, value) members).append _),
            ihmembers [] rest hvalue hmembers (by omega)]
          rfl
    · intro room item part items parts done rest hitem hitems hfuel
      cases hitems with
      | nil =>
        rw [itemChars_singleton] at hfuel ⊢
        exact readJsonItems_closed done (ihvalue hitem (endsValue_cons (by decide) rest) (by omega))
      | @cons next nextPart items parts hnext hitems =>
        have hmark := isMark_length hlayout.comma
        rw [itemChars_cons_cons] at hfuel ⊢
        simp only [List.length_append] at hfuel
        rw [List.append_assoc, List.append_assoc]
        have hread := ihvalue hitem (endsValue_comma hlayout (itemChars layout (next :: items) ++ ']' :: rest)) (by omega)
        obtain ⟨behind, hcomma, hbehind⟩ :=
          hlayout.comma.toList_append (by decide) (startsValue_itemChars layout hnext items) (']' :: rest)
        rw [readJsonItems_continued done hread hcomma hbehind, ihitems (part :: done) rest hnext hitems (by omega),
          List.reverse_cons, List.append_assoc]
        rfl
    · intro room name value part members parts done rest hvalue hmembers hfuel
      cases hmembers with
      | nil =>
        rw [memberChars_singleton] at hfuel ⊢
        simp only [List.length_append] at hfuel
        rw [List.append_assoc, List.append_assoc]
        exact readJsonMembers_closed hlayout done name hvalue (ihvalue hvalue (endsValue_cons (by decide) rest) (by omega))
      | @cons next nextPart members parts hnext hmembers =>
        obtain ⟨nextName, nextValue⟩ := next
        obtain ⟨nextName', nextPart⟩ := nextPart
        obtain ⟨rfl, hnextValue⟩ : nextName = nextName' ∧ nextValue.ReadsAs room nextPart := hnext
        have hmark := isMark_length hlayout.comma
        rw [memberChars_cons_cons] at hfuel ⊢
        simp only [List.length_append] at hfuel
        simp only [List.append_assoc]
        have hread := ihvalue hvalue
          (endsValue_comma hlayout (memberChars layout ((nextName, nextValue) :: members) ++ '\x7d' :: rest)) (by omega)
        obtain ⟨behind, hcomma, hbehind⟩ := hlayout.comma.toList_append (by decide)
          (startsValue_memberChars layout (nextName, nextValue) members) ('\x7d' :: rest)
        rw [readJsonMembers_continued hlayout done name hvalue hread hcomma hbehind,
          ihmembers (done.put name part) rest hnextValue hmembers (by omega)]
        rfl

end Layout

theorem Json.readWithin_render {layout : JsonLayout} (hlayout : layout.IsStandard) {room : Nat} {j read : Json}
    (h : j.ReadsAs room read) : Json.readWithin room (j.render layout) = .ok read := by
  have hstart := startsValue_render layout h
  have hskip : skipJsonBlanks (j.render layout).toList = (j.render layout).toList := by
    simpa using hstart.skipJsonBlanks (List.forall_mem_nil _) []
  have hmark : (j.render layout).toList.head? ≠ some '\ufeff' := by
    obtain ⟨c, rest, hchars, -, -, -, hmark⟩ := hstart
    rw [hchars]
    simpa using hmark
  have hread := (readJson_rendered hlayout _).1 h endsValue_nil le_rfl
  rw [List.append_nil] at hread
  unfold readWithin
  dsimp only
  rw [if_neg hmark, hskip, hread]
  rfl

/-- An object of one name and one string is read as it was written. -/
theorem Json.read_compact_member (name text : String) :
    Json.read (Json.object [(name, .string text)]).compact = .ok (.object [(name, .string text)]) := by
  have hread : (Json.object [(name, .string text)]).ReadsAs maxJsonDepth (.object [(name, .string text)]) :=
    .object_self (by simp) (by simp [Json.ReadsAs.string])
  exact Json.readWithin_render JsonLayout.isStandard_compact hread

end QueryGate
