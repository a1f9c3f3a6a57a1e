import Mathlib.Tactic.SplitIfs
import QueryGate.Text.Utf8
/-! UTF-8 read back. The bytes of a character are read as that character whatever follows them, and so the bytes of
a text as that text. -/

namespace QueryGate

theorem encodeUtf8_eq (s : String) : encodeUtf8 s = s.toList.flatMap String.utf8EncodeChar := by
  rw [encodeUtf8, String.toUTF8_eq_toByteArray, ← String.utf8Encode_toList, List.utf8Encode, List.data_toByteArray]

/-! The bytes that may follow a first byte. -/

theorem continuationBounds_two {first : Nat} (hlow : 0xc2 ≤ first) (hhigh : first < 0xe0) :
    continuationBounds first = some [(0x80, 0xbf)] := by
  unfold continuationBounds
  split_ifs <;> first | rfl | omega

/-- Second bytes that would spell a shorter form or a surrogate are left out. -/
theorem continuationBounds_three (first second : Nat) (hlow : 0xe0 ≤ first) (hhigh : first < 0xf0)
    (hsecond : 0x80 ≤ second ∧ second ≤ 0xbf) (hshort : first = 0xe0 → 0xa0 ≤ second)
    (hsurrogate : first = 0xed → second ≤ 0x9f) :
    ∃ low high, continuationBounds first = some [(low, high), (0x80, 0xbf)] ∧ low ≤ second ∧ second ≤ high := by
  unfold continuationBounds
  split_ifs <;> first | exact ⟨_, _, rfl, by omega, by omega⟩ | omega

/-- Second bytes that would spell a shorter form or go beyond the last character are left out. -/
theorem continuationBounds_four (first second : Nat) (hlow : 0xf0 ≤ first) (hhigh : first ≤ 0xf4)
    (hsecond : 0x80 ≤ second ∧ second ≤ 0xbf) (hshort : first = 0xf0 → 0x90 ≤ second)
    (hlast : first = 0xf4 → second ≤ 0x8f) :
    ∃ low high, continuationBounds first = some [(low, high), (0x80, 0xbf), (0x80, 0xbf)] ∧
      low ≤ second ∧ second ≤ high := by
  unfold continuationBounds
  split_ifs <;> first | exact ⟨_, _, rfl, by omega, by omega⟩ | omega

theorem readContinuation_cons {low high b : Nat} (hlow : low ≤ b) (hhigh : b ≤ high) (hb : b < 256)
    (bits used : Nat) (bounds : List (Nat × Nat)) (rest : List UInt8) :
    readContinuation bits used ((low, high) :: bounds) (UInt8.ofNat b :: rest) =
      readContinuation (bits * 0x40 + b % 0x40) (used + 1) bounds rest := by
  have hbyte : (UInt8.ofNat b).toNat = b := UInt8.toNat_ofNat_of_lt' hb
  rw [readContinuation, hbyte, if_pos ⟨hlow, hhigh⟩]

theorem readUtf8Char_ofNat {first : Nat} {bounds : List (Nat × Nat)} (hfirst : first < 256)
    (hbounds : continuationBounds first = some bounds) (rest : List UInt8) :
    readUtf8Char (UInt8.ofNat first) rest =
      (readContinuation (firstBits first) 1 bounds rest).map fun c => (c, bounds.length + 1) := by
  have hbyte : (UInt8.ofNat first).toNat = first := UInt8.toNat_ofNat_of_lt' hfirst
  rw [readUtf8Char, hbyte, hbounds]

/-- The first byte of a character tells how many bytes follow, and the bits of all of them are its number. -/
theorem readUtf8Char_utf8EncodeChar (c : Char) :
    ∃ b bs, String.utf8EncodeChar c = b :: bs ∧ ∀ rest, readUtf8Char b (bs ++ rest) = .ok (c, bs.length + 1) := by
  have hvalid : c.val.toNat < 0xd800 ∨ 0xdfff < c.val.toNat ∧ c.val.toNat < 0x110000 := c.valid
  have hnumber : ∀ {n : Nat}, n = c.val.toNat → Char.ofNat n = c := fun h => h ▸ Char.ofNat_toNat c
  unfold String.utf8EncodeChar
  generalize c.val.toNat = v at hvalid hnumber ⊢
  dsimp only
  split_ifs with hone htwo hthree
  · refine ⟨_, _, rfl, fun rest => ?_⟩
    have hbits : firstBits v = v := by
      unfold firstBits
      split_ifs <;> omega
    have hbounds : continuationBounds v = some [] := if_pos (by omega)
    rw [readUtf8Char_ofNat (by omega) hbounds, hbits, readContinuation, hnumber rfl]
    rfl
  · refine ⟨_, _, rfl, fun rest => ?_⟩
    have hbits : firstBits (v / 64 % 0x20 + 0xc0) = v / 64 := by
      unfold firstBits
      split_ifs <;> omega
    rw [readUtf8Char_ofNat (by omega) (continuationBounds_two (by omega) (by omega)), List.cons_append,
      readContinuation_cons (by omega) (by omega) (by omega), hbits, readContinuation, hnumber (by omega)]
    rfl
  · refine ⟨_, _, rfl, fun rest => ?_⟩
    have hbits : firstBits (v / 4096 % 0x10 + 0xe0) = v / 4096 := by
      unfold firstBits
      split_ifs <;> omega
    obtain ⟨low, high, hbounds, hlow, hhigh⟩ := continuationBounds_three (v / 4096 % 0x10 + 0xe0)
      (v / 64 % 0x40 + 0x80) (by omega) (by omega) (by omega) (by omega) (by omega)
    rw [readUtf8Char_ofNat (by omega) hbounds, List.cons_append, readContinuation_cons hlow hhigh (by omega),
      List.cons_append, readContinuation_cons (by omega) (by omega) (by omega), hbits, readContinuation,
      hnumber (by omega)]
    rfl
  · refine ⟨_, _, rfl, fun rest => ?_⟩
    have hbits : firstBits (v / 262144 % 0x08 + 0xf0) = v / 262144 := by
      unfold firstBits
      split_ifs <;> omega
    obtain ⟨low, high, hbounds, hlow, hhigh⟩ := continuationBounds_four (v / 262144 % 0x08 + 0xf0)
      (v / 4096 % 0x40 + 0x80) (by omega) (by omega) (by omega) (by omega) (by omega)
    rw [readUtf8Char_ofNat (by omega) hbounds, List.cons_append, readContinuation_cons hlow hhigh (by omega),
      List.cons_append, readContinuation_cons (by omega) (by omega) (by omega), List.cons_append,
      readContinuation_cons (by omega) (by omega) (by omega), hbits, readContinuation, hnumber (by omega)]
    rfl

/-! Whole texts. -/

theorem decodeLossyChars_skip (bs rest : List UInt8) :
    decodeLossyChars bs.length (bs ++ rest) = decodeLossyChars 0 rest := by
  induction bs with
  | nil => rfl
  | cons b bs ih =>
    rw [List.cons_append, List.length_cons, decodeLossyChars]
    exact ih

theorem decodeLossyChars_char (c : Char) (rest : List UInt8) :
    decodeLossyChars 0 (String.utf8EncodeChar c ++ rest) = c :: decodeLossyChars 0 rest := by
  obtain ⟨b, bs, hbytes, hread⟩ := readUtf8Char_utf8EncodeChar c
  rw [hbytes, List.cons_append, decodeLossyChars, hread]
  exact congrArg _ (decodeLossyChars_skip bs rest)

theorem decodeLossy_encodeUtf8 (s : String) : decodeLossy (encodeUtf8 s) = s := by
  have hchars : ∀ cs, decodeLossyChars 0 (cs.flatMap String.utf8EncodeChar) = cs := by
    intro cs
    induction cs with
    | nil => rfl
    | cons c cs ih => rw [List.flatMap_cons, decodeLossyChars_char, ih]
  rw [decodeLossy, encodeUtf8_eq, hchars, String.ofList_toList]

end QueryGate
