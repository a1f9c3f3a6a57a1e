import QueryGate.Proofs.Json.Rendered
import QueryGate.Proofs.Text.Spacing
/-! JSON in ASCII alone. Whatever a value holds, its spaced text is made of the printable characters of the first
block, so that it stands on one line. -/

namespace QueryGate

/-- A character that can be seen in ASCII, or a space. -/
def isPlainAscii (c : Char) : Bool :=
  0x20 ≤ c.toNat && c.toNat < 0x7f

def IsPlainAscii (cs : List Char) : Prop :=
  ∀ c ∈ cs, isPlainAscii c = true

namespace IsPlainAscii

variable {a b : List Char}

theorem nil : IsPlainAscii [] :=
  List.forall_mem_nil _

theorem cons {c : Char} (hc : isPlainAscii c = true) (ha : IsPlainAscii a) : IsPlainAscii (c :: a) :=
  List.forall_mem_cons.mpr ⟨hc, ha⟩

theorem append (ha : IsPlainAscii a) (hb : IsPlainAscii b) : IsPlainAscii (a ++ b) :=
  List.forall_mem_append.mpr ⟨ha, hb⟩

theorem isSingleLine {s : String} (h : IsPlainAscii s.toList) : IsSingleLine s := by
  intro c hc
  have hplain := h c hc
  unfold isPlainAscii at hplain
  unfold isLineBreak Ranges.has lineBreakRanges
  generalize c.toNat = n at *
  simp only [Ranges.covers] at *
  grind

end IsPlainAscii

/-! The characters of a string. -/

theorem isPlainAscii_unicodeEscapeChars (n : Nat) : IsPlainAscii (unicodeEscapeChars n) := by
  have hdigit : ∀ n, isPlainAscii (hexDigit (n % 16)) = true := by
    have hall : ∀ n < 16, isPlainAscii (hexDigit n) = true := by decide
    exact fun n => hall _ (Nat.mod_lt n (by decide))
  refine .cons (by decide) (.cons (by decide) ?_)
  exact .cons (hdigit _) (.cons (hdigit _) (.cons (hdigit _) (.cons (hdigit _) .nil)))

theorem isPlainAscii_escapedUnits (c : Char) : IsPlainAscii (escapedUnits c) := by
  unfold escapedUnits
  dsimp only
  split
  · exact isPlainAscii_unicodeEscapeChars _
  · exact (isPlainAscii_unicodeEscapeChars _).append (isPlainAscii_unicodeEscapeChars _)

theorem isPlainAscii_jsonCharChars (c : Char) : IsPlainAscii (jsonCharChars true c) := by
  unfold jsonCharChars
  iterate 7
    split
    · exact .cons (by decide) (.cons (by decide) .nil)
  split
  · exact isPlainAscii_unicodeEscapeChars _
  · next hlow =>
    split
    · exact isPlainAscii_escapedUnits c
    · next hhigh =>
      refine .cons ?_ .nil
      simp only [isPlainAscii, Bool.true_and, decide_eq_true_eq, Bool.and_eq_true] at hhigh ⊢
      omega

theorem isPlainAscii_quoted (s : String) : IsPlainAscii (JsonLayout.spaced.quoted s).toList := by
  have hbody : IsPlainAscii (s.toList.flatMap (jsonCharChars true)) := by
    intro c hc
    obtain ⟨d, -, hd⟩ := List.mem_flatMap.mp hc
    exact isPlainAscii_jsonCharChars d c hd
  rw [toList_quoted]
  exact .cons (by decide) (hbody.append (.cons (by decide) .nil))

/-! Numbers. -/

theorem isPlainAscii_of_isAsciiDigit {c : Char} (h : isAsciiDigit c = true) : isPlainAscii c = true :=
  of_isAsciiDigit (p := fun c => isPlainAscii c = true) (by decide) h

theorem isPlainAscii_signChars (negative : Bool) : IsPlainAscii (signChars negative) := by
  cases negative with
  | false => exact .nil
  | true => exact .cons (by decide) .nil

theorem isPlainAscii_intText (n : Int) : IsPlainAscii (intText n).toList := by
  rw [toList_intText]
  exact (isPlainAscii_signChars _).append fun c hc => isPlainAscii_of_isAsciiDigit (isAsciiDigit_of_mem_toDigits hc)

theorem IsDecimal.isPlainAscii {cs : List Char} (h : IsDecimal cs) : IsPlainAscii cs := by
  have hdigits : ∀ {digits : List Char}, (∀ c ∈ digits, isAsciiDigit c = true) → IsPlainAscii digits :=
    fun h c hc => isPlainAscii_of_isAsciiDigit (h c hc)
  have hfraction : ∀ {fraction : List Char}, IsFraction fraction → IsPlainAscii fraction := by
    rintro _ ⟨digits, h, -, rfl⟩
    exact .cons (by decide) (hdigits h)
  have hexponent : ∀ {exponent : List Char}, IsExponent exponent → IsPlainAscii exponent := by
    have hsigns : ∀ sign ∈ ['-', '+'], QueryGate.isPlainAscii sign = true := List.all_eq_true.mp (by decide)
    rintro _ ⟨sign, hsign, digits, h, -, rfl⟩
    exact .cons (by decide) (.cons (hsigns sign hsign) (hdigits h))
  cases h with
  | pointed hwhole hf => exact (hdigits hwhole.digits).append (hfraction hf)
  | scaled hwhole he => exact (hdigits hwhole.digits).append (hexponent he)
  | both hwhole hf he => exact (hdigits hwhole.digits).append ((hfraction hf).append (hexponent he))

theorem isPlainAscii_floatText (x : Float) : IsPlainAscii (FloatLayout.json.text x).toList := by
  have hform := FloatLayout.json.textForm x
  generalize (FloatLayout.json.text x).toList = cs at hform ⊢
  cases hform with
  | nan => exact List.all_eq_true.mp (by decide)
  | infinite negative => exact (isPlainAscii_signChars negative).append (List.all_eq_true.mp (by decide))
  | decimal negative h => exact (isPlainAscii_signChars negative).append h.isPlainAscii

/-! Whole values. -/

mutual
theorem Json.isPlainAscii_spaced (j : Json) : IsPlainAscii (j.render .spaced).toList := by
  cases j with
  | null =>
    rw [Json.render]
    exact List.all_eq_true.mp (by decide)
  | bool b =>
    rw [Json.render]
    cases b <;> exact List.all_eq_true.mp (by decide)
  | int n =>
    rw [Json.render]
    exact isPlainAscii_intText n
  | float x =>
    rw [Json.render]
    exact isPlainAscii_floatText x
  | string s =>
    rw [Json.render]
    exact isPlainAscii_quoted s
  | array items =>
    rw [toList_render_array]
    exact .cons (by decide) ((isPlainAscii_itemChars items).append (.cons (by decide) .nil))
  | object members =>
    rw [toList_render_object]
    exact .cons (by decide) ((isPlainAscii_memberChars members).append (.cons (by decide) .nil))

theorem isPlainAscii_itemChars : (items : List Json) → IsPlainAscii (itemChars .spaced items)
  | [] => .nil
  | [item] => itemChars_singleton .spaced item ▸ item.isPlainAscii_spaced
  | item :: next :: items => by
    have hcomma : IsPlainAscii JsonLayout.spaced.comma.toList := List.all_eq_true.mp (by decide)
    rw [itemChars_cons_cons]
    exact item.isPlainAscii_spaced.append (hcomma.append (isPlainAscii_itemChars (next :: items)))

theorem isPlainAscii_memberChars : (members : Members Json) → IsPlainAscii (memberChars .spaced members)
  | [] => .nil
  | [(name, value)] => by
    have hcolon : IsPlainAscii JsonLayout.spaced.colon.toList := List.all_eq_true.mp (by decide)
    rw [memberChars_singleton]
    exact (isPlainAscii_quoted name).append (hcolon.append value.isPlainAscii_spaced)
  | (name, value) :: next :: members => by
    have hcomma : IsPlainAscii JsonLayout.spaced.comma.toList := List.all_eq_true.mp (by decide)
    have hcolon : IsPlainAscii JsonLayout.spaced.colon.toList := List.all_eq_true.mp (by decide)
    rw [memberChars_cons_cons]
    exact (isPlainAscii_quoted name).append (hcolon.append (value.isPlainAscii_spaced.append
      (hcomma.append (isPlainAscii_memberChars (next :: members)))))
end

end QueryGate
