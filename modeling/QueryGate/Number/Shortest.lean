import QueryGate.Number.Power
/-! The fewest decimal digits that still name a given binary floating-point number, and of those the
nearest. The search uses exact natural numbers only. -/

namespace QueryGate

/-- A positive number `mantissa · 2 ^ exponent`. -/
structure Binary where
  mantissa : Nat
  exponent : Int

/-- A positive number `digits · 10 ^ exponent`. -/
structure Scientific where
  digits : Nat
  exponent : Int
deriving DecidableEq, Repr

/-- Compares `a · 10 ^ k` with `b · 2 ^ q`. -/
def compareScaled (a : Nat) (k : Int) (b : Nat) (q : Int) : Ordering :=
  compare (a * tenTo k.toNat * twoTo (-q).toNat) (b * twoTo q.toNat * tenTo (-k).toNat)

/-- The largest multiple of `10 ^ k` that is not above `b · 2 ^ q`, as a factor of `10 ^ k`. -/
def floorScaled (b : Nat) (q k : Int) : Nat :=
  (b * twoTo q.toNat * tenTo (-k).toNat) / (twoTo (-q).toNat * tenTo k.toNat)

/-- The decimal exponent of the leading digit, from an estimate that is off by at most one. -/
def Binary.magnitude (v : Binary) : Int :=
  let estimate := (((Nat.log2 v.mantissa : Int) + v.exponent) * 30103).fdiv 100000
  if compareScaled 1 (estimate + 1) v.mantissa v.exponent ≠ .gt then estimate + 1
  else if compareScaled 1 estimate v.mantissa v.exponent = .gt then estimate - 1
  else estimate

/-- The reals that round to the number: from `low` to `high` in units of `2 ^ unit`, the ends
included when the mantissa is even. -/
structure RoundingInterval where
  low : Nat
  middle : Nat
  high : Nat
  unit : Int
  closed : Bool

/-- The gap below the least mantissa of a binade is half as wide. -/
def Binary.interval (v : Binary) : RoundingInterval :=
  let narrow := v.mantissa = twoTo 52 ∧ v.exponent > -1074
  { low := 4 * v.mantissa - (if narrow then 1 else 2)
    middle := 4 * v.mantissa
    high := 4 * v.mantissa + 2
    unit := v.exponent - 2
    closed := v.mantissa % 2 = 0 }

def RoundingInterval.holds (i : RoundingInterval) (a : Nat) (k : Int) : Bool :=
  let below := compareScaled a k i.low i.unit
  let above := compareScaled a k i.high i.unit
  (below = .gt || (i.closed && below = .eq)) && (above = .lt || (i.closed && above = .eq))

/-- Of the two neighbours on the grid of `10 ^ k`, the one inside the interval, or the nearer. -/
def RoundingInterval.pick (i : RoundingInterval) (k : Int) : Option Nat :=
  let under := floorScaled i.middle i.unit k
  match i.holds under k && under ≠ 0, i.holds (under + 1) k with
  | false, false => none
  | true, false => some under
  | false, true => some (under + 1)
  | true, true =>
    -- the value against the midpoint of its neighbours
    match compareScaled (2 * under + 1) k (2 * i.middle) i.unit with
    | .gt => some under
    | .lt => some (under + 1)
    | .eq => some (if under % 2 = 0 then under else under + 1)

/-- Tries grids of one digit more each time. -/
def shortestFrom (v : Binary) (magnitude : Int) (count : Nat) : Nat → Scientific
  | 0 => ⟨v.mantissa, v.exponent⟩
  | fuel + 1 =>
    let k := magnitude - count
    match v.interval.pick k with
    | some digits => ⟨digits, k⟩
    | none => shortestFrom v magnitude (count + 1) fuel

/-- Seventeen digits always suffice. -/
def Binary.shortest (v : Binary) : Scientific :=
  shortestFrom v v.magnitude 0 18

/-- A floating-point number by its kind. -/
inductive FloatParts
  | nan
  | infinite (negative : Bool)
  | zero (negative : Bool)
  | finite (negative : Bool) (size : Binary)

def floatParts (x : Float) : FloatParts :=
  let bits : Nat := x.toBits.toNat
  let negative := bits / twoTo 63 = 1
  let field : Nat := bits / twoTo 52 % twoTo 11
  let fraction : Nat := bits % twoTo 52
  if field = 2047 then if fraction = 0 then .infinite negative else .nan
  else if field = 0 then
    if fraction = 0 then .zero negative else .finite negative ⟨fraction, -1074⟩
  else .finite negative ⟨twoTo 52 + fraction, Int.ofNat field - 1075⟩

end QueryGate
