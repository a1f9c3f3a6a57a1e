import Mathlib
import QueryGate.Value.Cell
/-! The numbers that floating-point numbers stand for. A comparison of a floating-point number with zero says
what its number says, and it says nothing of what is not a number. -/

namespace QueryGate

open Float.Model Float.Model.UnpackedFloat

/-! The parts of a floating-point number. -/

def isNegative : Sign → Bool
  | .negative => true
  | .positive => false

def partsOf : UnpackedFloat → FloatParts
  | .notANumber => .nan
  | .infinity s => .infinite (isNegative s)
  | .zero s => .zero (isNegative s)
  | .finite s m e _ => .finite (isNegative s) ⟨m, e⟩

theorem toNat_unpackExponent (b : BitVec Format.binary64.numBits) :
    (unpackExponent b).toNat = b.toNat / twoTo 52 % twoTo 11 := by
  simp [unpackExponent, BitVec.extractLsb, Nat.shiftRight_eq_div_pow, twoTo]

theorem toNat_unpackMantissa (b : BitVec Format.binary64.numBits) :
    (unpackMantissa b).toNat = b.toNat % twoTo 52 := by
  simp [unpackMantissa, BitVec.extractLsb, Nat.shiftRight_eq_div_pow, twoTo]

theorem isNegative_unpackSign (b : BitVec Format.binary64.numBits) :
    isNegative (Sign.ofBitVec (unpackSign b)) = decide (b.toNat / twoTo 63 = 1) := by
  have hsign : (unpackSign b).toNat = b.toNat / twoTo 63 := by
    have hb : b.toNat < 2 ^ 64 := b.isLt
    simp [unpackSign, BitVec.extractLsb, Nat.shiftRight_eq_div_pow, twoTo]
    omega
  rw [← hsign]
  generalize unpackSign b = s
  revert s
  decide

theorem toNat_one_append (m : BitVec Format.binary64.mantissaBitsWithoutImplicit) :
    (1#1 ++ m).toNat = twoTo 52 + m.toNat := by
  rw [BitVec.toNat_append]
  exact (Nat.two_pow_add_eq_or_of_lt m.isLt 1).symm

theorem floatParts_eq (x : Float) : floatParts x = partsOf x.toModel.unpack := by
  have hbits : x.toBits.toNat = x.toModel.toBits.toBitVec.toNat := rfl
  unfold floatParts Float.Model.unpack UnpackedFloat.unpack
  rw [hbits]
  generalize x.toModel.toBits.toBitVec = b
  extract_lets bits negative field fraction m e exponent vector sign
  have hnegative : decide negative = isNegative sign := (isNegative_unpackSign b).symm
  have hfield : field = e.toNat := (toNat_unpackExponent b).symm
  have hfraction : fraction = m.toNat := (toNat_unpackMantissa b).symm
  have hlast : e.toNat = 2047 ↔ e = -1#_ := BitVec.toNat_inj (x := e) (y := -1#11)
  have hfirst : e.toNat = 0 ↔ e = 0#_ := BitVec.toNat_inj (x := e) (y := 0#11)
  have hwhole : m.toNat = 0 ↔ m = 0#_ := BitVec.toNat_inj (x := m) (y := 0#52)
  simp only [hfield, hfraction, hnegative, hlast, hfirst, hwhole]
  -- The reserved exponents first, then the ordinary ones, whose mantissa has a leading one.
  split
  · split <;> rfl
  · split
    · next h =>
      split
      · rfl
      · have hexponent : exponent + 1 = -1074 := by
          simp only [exponent, h]
          rfl
        simp only [partsOf, hexponent]
    · rw [partsOf, toNat_one_append]
      rfl

/-! Numbers. -/

/-- The number that an exact fraction or an infinity stands for. -/
noncomputable def ExactNumber.toEReal : ExactNumber → EReal
  | .finite numerator denominator => ((numerator / denominator : ℝ) : EReal)
  | .infinite negative => if negative then ⊥ else ⊤

section Scaled

variable {digits base : Nat}

theorem toEReal_scaledNumber_pos (hdigits : 0 < digits) (hbase : 0 < base) (exponent : Int) :
    0 < (scaledNumber false digits base exponent).toEReal := by
  have hup : 0 < digits * base ^ exponent.toNat := Nat.mul_pos hdigits (Nat.pow_pos hbase)
  have hdown : 0 < base ^ (-exponent).toNat := Nat.pow_pos hbase
  refine EReal.coe_pos.mpr (div_pos ?_ ?_)
  · simp only [signedNat, Bool.false_eq_true, if_false]
    exact_mod_cast hup
  · exact_mod_cast hdown

theorem toEReal_scaledNumber_neg (hdigits : 0 < digits) (hbase : 0 < base) (exponent : Int) :
    (scaledNumber true digits base exponent).toEReal < 0 := by
  have hup : 0 < digits * base ^ exponent.toNat := Nat.mul_pos hdigits (Nat.pow_pos hbase)
  have hdown : 0 < base ^ (-exponent).toNat := Nat.pow_pos hbase
  refine EReal.coe_neg'.mpr (div_neg_of_neg_of_pos ?_ ?_)
  · simp only [signedNat, if_true]
    exact_mod_cast neg_neg_of_pos (Int.natCast_pos.mpr hup)
  · exact_mod_cast hdown

end Scaled

def exactOf : UnpackedFloat → Option ExactNumber
  | .notANumber => none
  | .infinity s => some (.infinite (isNegative s))
  | .zero _ => some (.finite 0 1)
  | .finite s m e _ => some (scaledNumber (isNegative s) m 2 e)

theorem number?_float (x : Float) : (Cell.float x).number? = exactOf x.toModel.unpack := by
  rw [Cell.number?, floatParts_eq]
  cases x.toModel.unpack <;> rfl

/-! Comparisons with zero. -/

/-- Zero is compared with the number; there is no comparison with what is not a number. -/
theorem zero_compare (u : UnpackedFloat) :
    UnpackedFloat.compare (.zero .positive) u = (exactOf u).map fun n => cmp 0 n.toEReal := by
  have hzero : (ExactNumber.finite 0 1).toEReal = 0 := by simp [ExactNumber.toEReal]
  have htop : cmp (0 : EReal) ⊤ = .lt := (cmp_eq_lt_iff _ _).mpr EReal.zero_lt_top
  have hbot : cmp (0 : EReal) ⊥ = .gt := (cmp_eq_gt_iff _ _).mpr EReal.bot_lt_zero
  cases u with
  | notANumber => rfl
  | infinity s =>
    cases s with
    | positive => simp [UnpackedFloat.compare, exactOf, isNegative, ExactNumber.toEReal, htop]
    | negative => simp [UnpackedFloat.compare, exactOf, isNegative, ExactNumber.toEReal, hbot]
  | zero s => simp [UnpackedFloat.compare, exactOf, hzero]
  | finite s m e hm =>
    cases s with
    | positive =>
      have hpos := toEReal_scaledNumber_pos hm Nat.two_pos e
      simp [UnpackedFloat.compare, exactOf, isNegative, (cmp_eq_lt_iff _ _).mpr hpos]
    | negative =>
      have hneg := toEReal_scaledNumber_neg hm Nat.two_pos e
      simp [UnpackedFloat.compare, exactOf, isNegative, (cmp_eq_gt_iff _ _).mpr hneg]

theorem zero_lt_iff (x : Float) : 0.0 < x ↔ ∃ n, (Cell.float x).number? = some n ∧ 0 < n.toEReal := by
  have hlt : 0.0 < x ↔ UnpackedFloat.lt (.zero .positive) x.toModel.unpack = true := decide_eq_true_iff
  rw [hlt, UnpackedFloat.lt, zero_compare, number?_float]
  simp [cmp_eq_lt_iff]

theorem zero_le_iff (x : Float) : 0.0 ≤ x ↔ ∃ n, (Cell.float x).number? = some n ∧ 0 ≤ n.toEReal := by
  have hle : 0.0 ≤ x ↔ UnpackedFloat.le (.zero .positive) x.toModel.unpack = true := decide_eq_true_iff
  rw [hle, UnpackedFloat.le, zero_compare, number?_float]
  simp [Option.any_eq_true, Ordering.isLE_iff_ne_gt, cmp_eq_gt_iff]

end QueryGate
