import QueryGate.Number.Shortest
/-! The text of a floating-point number: its shortest digits, positional between `10 ^ -4` and
`10 ^ 16` and with an exponent of at least two digits outside. An amount given from outside is kept as
it was written: whole numbers stay whole. -/

namespace QueryGate

/-- The choices that a text of a floating-point number makes. -/
structure FloatLayout where
  leastPositional : Int
  firstScientific : Int
  exponentWidth : Nat
  nan : String
  infinite : String

/-- The layout of displayed cells, amounts and error texts. -/
def FloatLayout.display : FloatLayout := ⟨-4, 16, 2, "nan", "inf"⟩

/-- The layout inside JSON. -/
def FloatLayout.json : FloatLayout := ⟨-4, 16, 2, "NaN", "Infinity"⟩

def digitsText (n : Nat) : String :=
  String.ofList (Nat.toDigits 10 n)

def intText (n : Int) : String :=
  if n < 0 then "-" ++ digitsText n.natAbs else digitsText n.natAbs

/-- Drops the zeros at the end of a digit string, counting them. -/
def dropTrailingZeros (digits : Nat) : Nat → Nat × Nat
  | 0 => (digits, 0)
  | fuel + 1 =>
    if digits ≠ 0 ∧ digits % 10 = 0 then
      let (rest, zeros) := dropTrailingZeros (digits / 10) fuel
      (rest, zeros + 1)
    else (digits, 0)

def zeros (n : Nat) : List Char :=
  List.replicate n '0'

/-- Digits `d₁d₂…dₙ` with the point after the first `point` of them, at least one digit on each side. -/
def positionalChars (digits : List Char) (point : Int) : List Char :=
  if point ≤ 0 then '0' :: '.' :: (zeros (-point).toNat ++ digits)
  else if digits.length ≤ point.toNat then
    digits ++ zeros (point.toNat - digits.length) ++ ['.', '0']
  else digits.take point.toNat ++ '.' :: digits.drop point.toNat

def exponentChars (width : Nat) (e : Int) : List Char :=
  let size := Nat.toDigits 10 e.natAbs
  'e' :: (if e < 0 then '-' else '+') :: (zeros (width - size.length) ++ size)

def scientificChars (width : Nat) (digits : List Char) (e : Int) : List Char :=
  match digits with
  | [] => []
  | [d] => d :: exponentChars width e
  | d :: rest => d :: '.' :: (rest ++ exponentChars width e)

def FloatLayout.size (layout : FloatLayout) (v : Binary) : List Char :=
  let s := v.shortest
  let (n, dropped) := dropTrailingZeros s.digits 18
  let digits := Nat.toDigits 10 n
  let e : Int := s.exponent + dropped + digits.length - 1
  if layout.leastPositional ≤ e ∧ e < layout.firstScientific then positionalChars digits (e + 1)
  else scientificChars layout.exponentWidth digits e

def FloatLayout.text (layout : FloatLayout) (x : Float) : String :=
  let signed (negative : Bool) (s : String) := if negative then "-" ++ s else s
  match floatParts x with
  | .nan => layout.nan
  | .infinite negative => signed negative layout.infinite
  | .zero negative => signed negative "0.0"
  | .finite negative v => signed negative (String.ofList (layout.size v))

def floatText (x : Float) : String :=
  FloatLayout.display.text x

/-- A count of seconds, for example. -/
inductive Amount
  | whole (n : Int)
  | real (x : Float)

def Amount.toFloat : Amount → Float
  | .whole n => Float.ofInt n
  | .real x => x

def Amount.text : Amount → String
  | .whole n => intText n
  | .real x => floatText x

end QueryGate
