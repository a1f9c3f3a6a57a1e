import QueryGate.Proofs.Text.Utf8
import QueryGate.Text.Percent
/-! Percent encoding read back. What is quoted has letters, digits and a few marks only, none of them a separator of
a URL, and unquoting it gives the text again. -/

namespace QueryGate

/-- The characters of a quoted text. -/
def isQuotedChar (c : Char) : Bool :=
  c.isAlphanum || c ∈ ['_', '.', '-', '~', '%', '+']

/-! One byte. -/

/-- A byte is written in the one way or in the other. -/
inductive QuotedByte (space : List Char) (b : UInt8) : List Char → Prop
  | space (h : b = 0x20) : QuotedByte space b space
  | kept {c : Char} (hbytes : encodeUtf8 (String.singleton c) = [b]) (hpercent : c ≠ '%') (hplus : c ≠ '+')
    (hc : isQuotedChar c = true) : QuotedByte space b [c]
  | escaped {high low : Char} {x y : Nat} (hhigh : hexDigitValue? high = some x) (hlow : hexDigitValue? low = some y)
    (hb : UInt8.ofNat (16 * x + y) = b) (hc : isQuotedChar high = true) (hd : isQuotedChar low = true) :
    QuotedByte space b ['%', high, low]

theorem hexDigit_toUpper {n : Nat} (h : n < 16) :
    hexDigitValue? (hexDigit n).toUpper = some n ∧ isQuotedChar (hexDigit n).toUpper = true := by
  have hall : ∀ n < 16, hexDigitValue? (hexDigit n).toUpper = some n ∧ isQuotedChar (hexDigit n).toUpper = true := by
    decide
  exact hall n h

theorem encodeUtf8_singleton {c : Char} (h : c.toNat < 0x80) :
    encodeUtf8 (String.singleton c) = [UInt8.ofNat c.toNat] := by
  have hone : c.val.toNat ≤ 0x7f := Nat.le_of_lt_succ h
  rw [encodeUtf8_eq, String.toList_singleton, List.flatMap_singleton, String.utf8EncodeChar]
  exact if_pos hone

theorem isUnreserved_spec {b : UInt8} (h : isUnreserved b = true) :
    encodeUtf8 (String.singleton (Char.ofNat b.toNat)) = [b] ∧ Char.ofNat b.toNat ≠ '%' ∧
      Char.ofNat b.toNat ≠ '+' ∧ isQuotedChar (Char.ofNat b.toNat) = true := by
  have hall : ∀ n < 256, isUnreserved (UInt8.ofNat n) = true →
      (Char.ofNat n).toNat = n ∧ n < 0x80 ∧ Char.ofNat n ≠ '%' ∧ Char.ofNat n ≠ '+' ∧ isQuotedChar (Char.ofNat n) = true := by
    decide +kernel
  have hb : UInt8.ofNat b.toNat = b := UInt8.ofNat_toNat
  obtain ⟨hchar, hsize, hpercent, hplus, hc⟩ := hall b.toNat b.toNat_lt (hb.symm ▸ h)
  refine ⟨?_, hpercent, hplus, hc⟩
  rw [encodeUtf8_singleton (hchar.symm ▸ hsize), hchar, hb]

theorem quotedByte (space : List Char) (b : UInt8) : QuotedByte space b (quoteByte space b) := by
  unfold quoteByte
  split
  · next h => exact .space h
  · split
    · next h =>
      obtain ⟨hbytes, hpercent, hplus, hc⟩ := isUnreserved_spec h
      exact .kept hbytes hpercent hplus hc
    · have hsize : b.toNat < 256 := b.toNat_lt
      obtain ⟨hhigh, hc⟩ := hexDigit_toUpper (n := b.toNat / 16) (by omega)
      obtain ⟨hlow, hd⟩ := hexDigit_toUpper (n := b.toNat % 16) (by omega)
      have hb : UInt8.ofNat (16 * (b.toNat / 16) + b.toNat % 16) = b := by
        rw [Nat.div_add_mod, UInt8.ofNat_toNat]
      exact .escaped hhigh hlow hb hc hd

theorem unquoteBytes_escaped {high low : Char} {x y : Nat} (hhigh : hexDigitValue? high = some x)
    (hlow : hexDigitValue? low = some y) (rest : List Char) :
    unquoteBytes ('%' :: high :: low :: rest) = UInt8.ofNat (16 * x + y) :: unquoteBytes rest := by
  rw [unquoteBytes, hhigh, hlow]

theorem unquoteBytes_kept {c : Char} (h : c ≠ '%') (rest : List Char) :
    unquoteBytes (c :: rest) = encodeUtf8 (String.singleton c) ++ unquoteBytes rest := by
  rw [unquoteBytes]
  rintro a b rest' rfl
  exact absurd rfl h

/-! Whole texts. -/

/-- Bytes are read back also if some characters are replaced first, as long as this is undone for what a space is
written as and leaves the other characters alone. -/
theorem unquoteBytes_quoted {space : List Char} {f : Char → Char}
    (hspace : ∀ rest, unquoteBytes (space.map f ++ rest) = 0x20 :: unquoteBytes rest) (hf : ∀ c, c ≠ '+' → f c = c)
    (bs : List UInt8) : unquoteBytes ((bs.flatMap (quoteByte space)).map f) = bs := by
  induction bs with
  | nil => rw [List.flatMap_nil, List.map_nil, unquoteBytes]
  | cons b bs ih =>
    have hform := quotedByte space b
    rw [List.flatMap_cons, List.map_append]
    generalize quoteByte space b = chars at hform ⊢
    cases hform with
    | space h => rw [hspace, ih, h]
    | kept hbytes hpercent hplus =>
      rw [List.map_singleton, hf _ hplus, List.singleton_append, unquoteBytes_kept hpercent, hbytes, ih,
        List.singleton_append]
    | @escaped high low x y hhigh hlow hb =>
      have hdigit : ∀ {c : Char} {n : Nat}, hexDigitValue? c = some n → c ≠ '+' := by
        rintro _ n h rfl
        cases h
      have hmap : ['%', high, low].map f = ['%', high, low] := by
        simp [hf, hdigit hhigh, hdigit hlow]
      rw [hmap, List.cons_append, List.cons_append, List.cons_append, List.nil_append,
        unquoteBytes_escaped hhigh hlow, ih, hb]

theorem percentUnquoted_percentQuoted (s : String) : percentUnquoted (percentQuoted s) = s := by
  have hspace : ∀ rest, unquoteBytes (['%', '2', '0'].map id ++ rest) = 0x20 :: unquoteBytes rest :=
    fun rest => unquoteBytes_escaped (x := 2) (y := 0) rfl rfl rest
  have hbytes := unquoteBytes_quoted hspace (fun _ _ => rfl) (encodeUtf8 s)
  rw [List.map_id] at hbytes
  rw [percentUnquoted, percentQuoted, String.toList_ofList, hbytes, decodeLossy_encodeUtf8]

theorem formUnquoted_formQuoted (s : String) : formUnquoted (formQuoted s) = s := by
  have hspace : ∀ rest, unquoteBytes (['+'].map (fun c => if c = '+' then ' ' else c) ++ rest) =
      0x20 :: unquoteBytes rest :=
    fun rest => (unquoteBytes_kept (by decide) rest).trans (by rw [encodeUtf8_singleton (by decide)]; rfl)
  have hbytes := unquoteBytes_quoted hspace (fun _ h => if_neg h) (encodeUtf8 s)
  rw [formUnquoted, formQuoted, String.toList_ofList, hbytes, decodeLossy_encodeUtf8]

theorem isQuotedChar_of_mem_quoteByte {space : List Char} (hspace : ∀ c ∈ space, isQuotedChar c = true) {b : UInt8}
    {c : Char} (hc : c ∈ quoteByte space b) : isQuotedChar c = true := by
  have hform := quotedByte space b
  generalize quoteByte space b = chars at hform hc
  cases hform with
  | space => exact hspace c hc
  | kept _ _ _ hkept => exact List.mem_singleton.mp hc ▸ hkept
  | escaped _ _ _ hhigh hlow =>
    simp only [List.mem_cons, List.not_mem_nil, or_false] at hc
    rcases hc with rfl | rfl | rfl
    · rfl
    · exact hhigh
    · exact hlow

theorem isQuotedChar_of_mem_percentQuoted {s : String} {c : Char} (hc : c ∈ (percentQuoted s).toList) :
    isQuotedChar c = true := by
  rw [percentQuoted, String.toList_ofList, List.mem_flatMap] at hc
  obtain ⟨b, -, hc⟩ := hc
  exact isQuotedChar_of_mem_quoteByte (List.all_eq_true.mp (by decide)) hc

theorem isQuotedChar_of_mem_formQuoted {s : String} {c : Char} (hc : c ∈ (formQuoted s).toList) :
    isQuotedChar c = true := by
  rw [formQuoted, String.toList_ofList, List.mem_flatMap] at hc
  obtain ⟨b, -, hc⟩ := hc
  exact isQuotedChar_of_mem_quoteByte (List.all_eq_true.mp (by decide)) hc

end QueryGate
