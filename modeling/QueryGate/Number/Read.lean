/-! Numbers read from decimal digits. -/

namespace QueryGate

def isAsciiDigit (c : Char) : Bool :=
  '0' ≤ c && c ≤ '9'

def digitValue (c : Char) : Nat :=
  c.toNat - '0'.toNat

def natOfDigits (cs : List Char) : Nat :=
  cs.foldl (fun n c => 10 * n + digitValue c) 0

/-- The floating-point number nearest to `digits · 10 ^ exponent`. Far outside the range of the
format the answer is known without the powers. -/
def floatOfDecimal (digits : Nat) (exponent : Int) : Float :=
  let magnitude : Int := (Nat.log2 digits : Int) * 30103 / 100000 + exponent
  if digits = 0 ∨ magnitude < -400 then 0.0
  else if magnitude > 400 then 1.0 / 0.0
  else Float.ofScientific digits (exponent < 0) exponent.natAbs

/-- An unsigned decimal: digits, then possibly a fraction, then possibly an exponent. The integer
part may be empty only before a fraction, and the fraction may be empty only after an integer. -/
structure DecimalText where
  whole : List Char
  fraction : List Char
  exponent : Int

/-- Reads an exponent mark with its digits, if they stand here. -/
def readExponent (cs : List Char) : Int × List Char :=
  match cs with
  | e :: rest =>
    if e = 'e' || e = 'E' then
      let (sign, body) : Int × List Char := match rest with
        | '-' :: r => (-1, r)
        | '+' :: r => (1, r)
        | r => (1, r)
      let digits := body.takeWhile isAsciiDigit
      if digits.isEmpty then (0, cs) else (sign * natOfDigits digits, body.dropWhile isAsciiDigit)
    else (0, cs)
  | [] => (0, [])

def DecimalText.read (cs : List Char) : Option (DecimalText × List Char) :=
  let whole := cs.takeWhile isAsciiDigit
  let afterWhole := cs.dropWhile isAsciiDigit
  let (fraction, afterFraction) := match afterWhole with
    | '.' :: rest => (rest.takeWhile isAsciiDigit, rest.dropWhile isAsciiDigit)
    | rest => ([], rest)
  if whole.isEmpty && fraction.isEmpty then none
  else
    let (e, rest) := readExponent afterFraction
    some (⟨whole, fraction, e⟩, rest)

def DecimalText.toFloat (d : DecimalText) : Float :=
  floatOfDecimal (natOfDigits (d.whole ++ d.fraction)) (d.exponent - d.fraction.length)

end QueryGate
