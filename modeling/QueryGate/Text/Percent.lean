import QueryGate.Json.Writer
import QueryGate.Text.Utf8
/-! Percent encoding of a text for a URL, and its decoding. Inside a query a space is a plus sign. -/

namespace QueryGate

/-- Bytes that stand for themselves: letters, digits and four marks. -/
def isUnreserved (b : UInt8) : Bool :=
  let c := Char.ofNat b.toNat
  c.isAlphanum || c = '_' || c = '.' || c = '-' || c = '~'

def percentByte (b : UInt8) : List Char :=
  ['%', (hexDigit (b.toNat / 16)).toUpper, (hexDigit (b.toNat % 16)).toUpper]

/-- One byte of a text, with the character that a space is written as. -/
def quoteByte (space : List Char) (b : UInt8) : List Char :=
  if b = 0x20 then space
  else if isUnreserved b then [Char.ofNat b.toNat]
  else percentByte b

def percentQuoted (s : String) : String :=
  String.ofList ((encodeUtf8 s).flatMap (quoteByte ['%', '2', '0']))

def formQuoted (s : String) : String :=
  String.ofList ((encodeUtf8 s).flatMap (quoteByte ['+']))

def hexDigitValue? (c : Char) : Option Nat :=
  if '0' ≤ c ∧ c ≤ '9' then some (c.toNat - '0'.toNat)
  else if 'a' ≤ c ∧ c ≤ 'f' then some (c.toNat - 'a'.toNat + 10)
  else if 'A' ≤ c ∧ c ≤ 'F' then some (c.toNat - 'A'.toNat + 10)
  else none

/-- Bytes with each percent sign and two hexadecimal digits read as one byte. -/
def unquoteBytes : List Char → List UInt8
  | [] => []
  | '%' :: a :: b :: rest =>
    match hexDigitValue? a, hexDigitValue? b with
    | some x, some y => UInt8.ofNat (16 * x + y) :: unquoteBytes rest
    | _, _ => 0x25 :: unquoteBytes (a :: b :: rest)
  | c :: rest => encodeUtf8 (String.singleton c) ++ unquoteBytes rest
termination_by cs => cs.length

def percentUnquoted (s : String) : String :=
  decodeLossy (unquoteBytes s.toList)

def formUnquoted (s : String) : String :=
  decodeLossy (unquoteBytes (s.toList.map fun c => if c = '+' then ' ' else c))

end QueryGate
