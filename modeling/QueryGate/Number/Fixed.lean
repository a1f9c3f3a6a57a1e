import QueryGate.Number.FloatText
import QueryGate.Number.Power
/-! Numbers written with a given count of digits. What is cut off is rounded, and a half goes to the
even neighbour. -/

namespace QueryGate

/-- The natural number nearest to a quotient. -/
def roundedQuotient (a b : Nat) : Nat :=
  let q := a / b
  match compare (2 * (a % b)) b with
  | .lt => q
  | .gt => q + 1
  | .eq => if q % 2 = 0 then q else q + 1

/-- The nearest multiple of `10 ^ k`, as a factor of `10 ^ k`. -/
def Binary.nearest (v : Binary) (k : Int) : Nat :=
  roundedQuotient (v.mantissa * twoTo v.exponent.toNat * tenTo (-k).toNat)
    (twoTo (-v.exponent).toNat * tenTo k.toNat)

def Binary.zero : Binary := ⟨0, 0⟩

def Binary.isZero (v : Binary) : Bool :=
  v.mantissa = 0

/-- Digits in which the last `places` stand behind the point. -/
def pointedChars (digits : List Char) (places : Nat) (keepPoint : Bool) : List Char :=
  let whole := digits.length - places
  digits.take whole ++ (if places = 0 && !keepPoint then [] else '.' :: digits.drop whole)

/-- The number with `places` digits behind the point. -/
def Binary.fixedChars (v : Binary) (places : Nat) (keepPoint : Bool) : List Char :=
  let digits := Nat.toDigits 10 (v.nearest (-(places : Int)))
  pointedChars (zeros (places + 1 - digits.length) ++ digits) places keepPoint

/-- The leading digit with `places` digits after it, and its power of ten. -/
def Binary.leading (v : Binary) (places : Nat) : List Char × Int :=
  if v.isZero then (zeros (places + 1), 0) else
  let e := v.magnitude
  let n := v.nearest (e - places)
  if n = tenTo (places + 1) then (Nat.toDigits 10 (tenTo places), e + 1)
  else (Nat.toDigits 10 n, e)

def Binary.scientificChars (v : Binary) (places : Nat) (keepPoint : Bool) : List Char :=
  let (digits, e) := v.leading places
  pointedChars digits places keepPoint ++ exponentChars 2 e

/-- Drops zeros after the point, and then the point if nothing is left behind it. -/
def dropFractionZeros (cs : List Char) : List Char :=
  if cs.contains '.' then
    ((cs.reverse.dropWhile (· = '0')).dropWhile (· = '.')).reverse
  else cs

/-- The number with so many significant digits, positional if its power of ten is neither below `-4`
nor beyond them. -/
def Binary.significantChars (v : Binary) (count : Nat) (keepZeros : Bool) : List Char :=
  let count := max count 1
  let (digits, e) := v.leading (count - 1)
  let tidy (cs : List Char) := if keepZeros then cs else dropFractionZeros cs
  if -4 ≤ e ∧ e < count then
    tidy (v.fixedChars (count - 1 - e).toNat keepZeros)
  else tidy (pointedChars digits (count - 1) keepZeros) ++ exponentChars 2 e

/-- The largest integer that is not above a finite number. -/
def floatFloor (x : Float) : Int :=
  match floatParts x with
  | .finite negative v =>
    let size : Int := v.mantissa * twoTo v.exponent.toNat
    (if negative then -size else size).fdiv (twoTo (-v.exponent).toNat)
  | _ => 0

/-- A finite number without its fraction. -/
def floatTrunc (x : Float) : Int :=
  if x < 0.0 then -(floatFloor (-x)) else floatFloor x

end QueryGate
