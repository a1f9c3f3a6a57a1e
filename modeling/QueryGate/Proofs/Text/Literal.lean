import Mathlib.Tactic.SplitIfs
import QueryGate.Json.Reader
import QueryGate.Text.Literal
/-! Quoted literals tell texts apart. Each character is found again in its code, and the start of a code
shows how long it is. -/

namespace QueryGate

/-! Hexadecimal digits. -/

def hexNumber (digits : List Char) : Nat :=
  digits.foldl (fun n d => 16 * n + (hexValue? d).getD 0) 0

theorem hexValue_hexDigit_mod (n : Nat) : hexValue? (hexDigit (n % 16)) = some (n % 16) := by
  have hall : ∀ d < 16, hexValue? (hexDigit d) = some d := by decide
  exact hall _ (Nat.mod_lt n (by decide))

theorem hexNumber_hexByteChars {n : Nat} (h : n < 0x100) : hexNumber (hexByteChars n) = n := by
  simp only [hexNumber, hexByteChars, List.foldl_cons, List.foldl_nil, hexValue_hexDigit_mod, Option.getD_some]
  omega

theorem hexNumber_hexUnitChars {n : Nat} (h : n < 0x10000) : hexNumber (hexUnitChars n) = n := by
  simp only [hexNumber, hexUnitChars, List.foldl_cons, List.foldl_nil, hexValue_hexDigit_mod, Option.getD_some]
  omega

theorem hexNumber_hexUnitChars_pair {n : Nat} (h : n < 0x100000000) :
    hexNumber (hexUnitChars (n / 0x10000) ++ hexUnitChars (n % 0x10000)) = n := by
  simp only [hexNumber, hexUnitChars, List.cons_append, List.nil_append, List.foldl_cons, List.foldl_nil,
    hexValue_hexDigit_mod, Option.getD_some]
  omega

/-! The code of one character. -/

/-- The number of the character with a code. -/
def codeValue : List Char → Nat
  | [c] => c.toNat
  | ['\\', 'n'] => '\n'.toNat
  | ['\\', 'r'] => '\r'.toNat
  | ['\\', 't'] => '\t'.toNat
  | ['\\', c] => c.toNat
  | _ :: _ :: digits => hexNumber digits
  | [] => 0

/-- The length of the code at the start of a text. -/
def codeLength : List Char → Nat
  | '\\' :: 'x' :: _ => 4
  | '\\' :: 'u' :: _ => 6
  | '\\' :: 'U' :: _ => 10
  | '\\' :: _ => 2
  | _ => 1

def IsQuote (c : Char) : Prop :=
  c = '\'' ∨ c = '"'

theorem isQuote_quoteFor (cs : List Char) : IsQuote (quoteFor cs) := by
  unfold quoteFor
  split
  · exact .inr rfl
  · exact .inl rfl

variable {quote : Char}

theorem codeValue_literalChar (hquote : IsQuote quote) (c : Char) :
    codeValue (literalChar quote c) = c.toNat := by
  have hbound : c.toNat < 0x110000 := by
    rcases c.valid with h | ⟨-, h⟩
    · exact Nat.lt_trans h (by decide)
    · exact h
  unfold literalChar
  dsimp only
  split_ifs with hmark hfeed hreturn htab hprintable hbyte hunit
  · obtain (rfl | rfl) | rfl : (c = '\'' ∨ c = '"') ∨ c = '\\' := by
      rcases (by simpa using hmark : c = quote ∨ c = '\\') with rfl | h
      · exact .inl hquote
      · exact .inr h
    all_goals rfl
  · rw [hfeed]
    rfl
  · rw [hreturn]
    rfl
  · rw [htab]
    rfl
  · rfl
  · exact hexNumber_hexByteChars hbyte
  · exact hexNumber_hexUnitChars hunit
  · exact hexNumber_hexUnitChars_pair (by omega)

theorem codeLength_literalChar (hquote : IsQuote quote) (c : Char) (rest : List Char) :
    codeLength (literalChar quote c ++ rest) = (literalChar quote c).length := by
  unfold literalChar
  dsimp only
  split_ifs with hmark hfeed hreturn htab hprintable hbyte hunit
  · obtain (rfl | rfl) | rfl : (c = '\'' ∨ c = '"') ∨ c = '\\' := by
      rcases (by simpa using hmark : c = quote ∨ c = '\\') with rfl | h
      · exact .inl hquote
      · exact .inr h
    all_goals rfl
  · rfl
  · rfl
  · rfl
  · have hbackslash : c ≠ '\\' := by
      rintro rfl
      simp at hmark
    unfold codeLength
    split <;> simp_all
  · rfl
  · rfl
  · rfl

theorem literalChar_inj (hquote : IsQuote quote) {a b : Char} {s t : List Char}
    (h : literalChar quote a ++ s = literalChar quote b ++ t) : a = b ∧ s = t := by
  have hlength : (literalChar quote a).length = (literalChar quote b).length := by
    rw [← codeLength_literalChar hquote a s, h, codeLength_literalChar hquote b t]
  obtain ⟨hcode, hrest⟩ := List.append_inj h hlength
  have hvalue : a.toNat = b.toNat := by
    rw [← codeValue_literalChar hquote a, hcode, codeValue_literalChar hquote b]
  exact ⟨by rw [← Char.ofNat_toNat a, hvalue, Char.ofNat_toNat], hrest⟩

theorem literalChar_ne_nil (quote c : Char) : literalChar quote c ≠ [] := by
  unfold literalChar
  dsimp only
  split_ifs <;> exact List.cons_ne_nil _ _

/-! The codes of a text. -/

theorem flatMap_literalChar_inj (hquote : IsQuote quote) {cs ds : List Char}
    (h : cs.flatMap (literalChar quote) = ds.flatMap (literalChar quote)) : cs = ds := by
  induction cs generalizing ds with
  | nil =>
    cases ds with
    | nil => rfl
    | cons d ds => simp [literalChar_ne_nil quote d] at h
  | cons c cs ih =>
    cases ds with
    | nil => simp [literalChar_ne_nil quote c] at h
    | cons d ds =>
      rw [List.flatMap_cons, List.flatMap_cons] at h
      obtain ⟨rfl, hrest⟩ := literalChar_inj hquote h
      rw [ih hrest]

theorem literalText_inj {s t : String} (h : literalText s = literalText t) : s = t := by
  have hchars := String.ofList_injective h
  obtain ⟨hquote, hbody⟩ := List.cons.inj hchars
  rw [hquote] at hbody
  have hcodes := List.append_cancel_right hbody
  exact String.toList_inj.mp (flatMap_literalChar_inj (isQuote_quoteFor _) hcodes)

end QueryGate
