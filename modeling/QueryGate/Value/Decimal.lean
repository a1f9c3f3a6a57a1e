import QueryGate.Number.FloatText
import QueryGate.Number.Power
import QueryGate.Number.Read
import QueryGate.Text.Blank
import QueryGate.Text.CaseMap
/-! Decimal numbers that keep the zeros at their end, with their plain text, their scientific text and
the reading of both. -/

namespace QueryGate

inductive Decimal
  /-- The number `digits · 10 ^ exponent`. -/
  | finite (negative : Bool) (digits : Nat) (exponent : Int)
  | infinite (negative : Bool)
  | nan (negative signaling : Bool) (payload : Nat)
deriving DecidableEq, Repr

def signChars (negative : Bool) : List Char :=
  if negative then ['-'] else []

/-- All digits written out, those behind the point being `-exponent` in number. -/
def plainDigits (digits : Nat) (exponent : Int) : List Char :=
  if 0 ≤ exponent then Nat.toDigits 10 (digits * tenTo exponent.toNat)
  else
    let places := (-exponent).toNat
    let cs := Nat.toDigits 10 digits
    let padded := zeros (places + 1 - cs.length) ++ cs
    padded.take (padded.length - places) ++ '.' :: padded.drop (padded.length - places)

/-- A point after the first digit and an exponent, unless few zeros do. -/
def scientificDigits (digits : Nat) (exponent : Int) : List Char :=
  let cs := Nat.toDigits 10 digits
  let point := exponent + cs.length
  if exponent ≤ 0 ∧ -6 < point then plainDigits digits exponent
  else
    let mantissa := match cs with
      | d :: e :: rest => d :: '.' :: e :: rest
      | short => short
    mantissa ++ 'E' :: (if point - 1 < 0 then '-' else '+') :: Nat.toDigits 10 (point - 1).natAbs

/-- The text of a decimal whose finite digits are written by the given rule. -/
def Decimal.textBy (write : Nat → Int → List Char) (d : Decimal) : String :=
  String.ofList <| match d with
  | .finite negative digits exponent => signChars negative ++ write digits exponent
  | .infinite negative => signChars negative ++ "Infinity".toList
  | .nan negative signaling payload =>
    signChars negative ++ (if signaling then "sNaN" else "NaN").toList
      ++ (if payload = 0 then [] else Nat.toDigits 10 payload)

/-- The text without any exponent. -/
def Decimal.plain (d : Decimal) : String :=
  d.textBy plainDigits

def Decimal.scientific (d : Decimal) : String :=
  d.textBy scientificDigits

/-- The digits after a word, if they are digits alone. -/
def payloadAfter? (word : String) (cs : List Char) : Option Nat :=
  if word.toList.isPrefixOf cs && (cs.drop word.length).all isAsciiDigit then
    some (natOfDigits (cs.drop word.length))
  else none

/-- Reads a decimal; blanks round it, underscores in it and the case of its letters do not count. -/
def Decimal.read (s : String) : Option Decimal :=
  let cs := (trimBlanks s.toList).filter (· ≠ '_')
  let (negative, size) := match cs with
    | '-' :: rest => (true, rest)
    | '+' :: rest => (false, rest)
    | rest => (false, rest)
  let lowered := lowerChars size
  if lowered = "inf".toList ∨ lowered = "infinity".toList then some (.infinite negative)
  else
    match payloadAfter? "nan" lowered, payloadAfter? "snan" lowered, DecimalText.read size with
    | some payload, _, _ => some (.nan negative false payload)
    | _, some payload, _ => some (.nan negative true payload)
    | _, _, some (t, []) =>
      some (.finite negative (natOfDigits (t.whole ++ t.fraction)) (t.exponent - t.fraction.length))
    | _, _, _ => none

/-- The nearest floating-point number. A signalling one has none. -/
def Decimal.toFloat? : Decimal → Option Float
  | .finite negative digits exponent =>
    let size := floatOfDecimal digits exponent
    some (if negative then -size else size)
  | .infinite negative => some (if negative then -1.0 / 0.0 else 1.0 / 0.0)
  | .nan _ signaling _ => if signaling then none else some (0.0 / 0.0)

end QueryGate
