import QueryGate.Text.Printable
import QueryGate.Json.Writer
/-! A text or a byte string as a quoted literal, for messages that have to show blanks and controls. -/

namespace QueryGate

/-- Single quotes, or double quotes round a text that holds single quotes and no double ones. -/
def quoteFor (cs : List Char) : Char :=
  if cs.contains '\'' && !cs.contains '"' then '"' else '\''

def hexByteChars (n : Nat) : List Char :=
  [hexDigit (n / 16 % 16), hexDigit (n % 16)]

def literalChar (quote c : Char) : List Char :=
  let n := c.toNat
  if c = quote || c = '\\' then ['\\', c]
  else if c = '\n' then ['\\', 'n']
  else if c = '\r' then ['\\', 'r']
  else if c = '\t' then ['\\', 't']
  else if isPrintable c then [c]
  else if n < 0x100 then '\\' :: 'x' :: hexByteChars n
  else if n < 0x10000 then unicodeEscapeChars n
  else '\\' :: 'U' :: (hexUnitChars (n / 0x10000) ++ hexUnitChars (n % 0x10000))

def literalText (s : String) : String :=
  let cs := s.toList
  let quote := quoteFor cs
  String.ofList (quote :: (cs.flatMap (literalChar quote) ++ [quote]))

def literalByte (quote : Char) (n : Nat) : List Char :=
  let c := Char.ofNat n
  if c = quote || c = '\\' then ['\\', c]
  else if c = '\n' then ['\\', 'n']
  else if c = '\r' then ['\\', 'r']
  else if c = '\t' then ['\\', 't']
  else if 0x20 ≤ n && n < 0x7f then [c]
  else '\\' :: 'x' :: hexByteChars n

def literalBytes (bytes : List UInt8) : String :=
  let quote := quoteFor (bytes.map (fun b => Char.ofNat b.toNat))
  String.ofList ('b' :: quote :: (bytes.flatMap (fun b => literalByte quote b.toNat) ++ [quote]))

end QueryGate
