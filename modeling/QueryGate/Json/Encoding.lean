import QueryGate.Json.Reader
import QueryGate.Json.Writer
import QueryGate.Text.Utf8
/-! The text of JSON that comes as bytes. The encoding is told by a mark at the start, or by the zero
bytes among the first four. -/

namespace QueryGate

inductive TextEncoding
  | utf8
  | utf16 (little : Bool)
  | utf32 (little : Bool)
deriving DecidableEq, Repr

def TextEncoding.label : TextEncoding → String
  | .utf8 => "utf-8"
  | .utf16 little => if little then "utf-16-le" else "utf-16-be"
  | .utf32 little => if little then "utf-32-le" else "utf-32-be"

/-- The encoding of some bytes and the length of the mark in front. -/
def TextEncoding.detect : List UInt8 → TextEncoding × Nat
  | 0x00 :: 0x00 :: 0xfe :: 0xff :: _ => (.utf32 false, 4)
  | 0xff :: 0xfe :: 0x00 :: 0x00 :: _ => (.utf32 true, 4)
  | 0xfe :: 0xff :: _ => (.utf16 false, 2)
  | 0xff :: 0xfe :: _ => (.utf16 true, 2)
  | 0xef :: 0xbb :: 0xbf :: _ => (.utf8, 3)
  | 0x00 :: b :: _ :: _ :: _ => (if b = 0 then .utf32 false else .utf16 false, 0)
  | _ :: 0x00 :: c :: d :: _ => (if c = 0 ∧ d = 0 then .utf32 true else .utf16 true, 0)
  | [0x00, _] => (.utf16 false, 0)
  | [_, 0x00] => (.utf16 true, 0)
  | _ => (.utf8, 0)

/-- Why bytes are no text: the place of the first damaged byte, that byte, and how many are damaged. -/
structure DecodingError where
  encoding : TextEncoding
  position : Nat
  first : UInt8
  length : Nat
  reason : String

def DecodingError.message (e : DecodingError) : String :=
  let place :=
    if e.length = 1 then
      "byte 0x" ++ String.ofList [hexDigit (e.first.toNat / 16), hexDigit (e.first.toNat % 16)]
        ++ s!" in position {e.position}"
    else s!"bytes in position {e.position}-{e.position + e.length - 1}"
  "'" ++ e.encoding.label ++ "' codec can't decode " ++ place ++ ": " ++ e.reason

def unit16 (little : Bool) (a b : UInt8) : Nat :=
  if little then a.toNat + 256 * b.toNat else 256 * a.toNat + b.toNat

def unit32 (little : Bool) (a b c d : UInt8) : Nat :=
  if little then unit16 true a b + 65536 * unit16 true c d
  else 65536 * unit16 false a b + unit16 false c d

/-- Joins units of sixteen bits; a surrogate without its partner is replaced. -/
def joinUnits : List Nat → List Char
  | [] => []
  | [u] => [charOfUnit u]
  | u :: v :: rest =>
    if isHighSurrogate u && isLowSurrogate v then Char.ofNat (joinSurrogates u v) :: joinUnits rest
    else charOfUnit u :: joinUnits (v :: rest)

def readUnits16 (little : Bool) (position : Nat) : List UInt8 → Except DecodingError (List Nat)
  | [] => .ok []
  | [b] => .error ⟨.utf16 little, position, b, 1, "truncated data"⟩
  | a :: b :: rest => (readUnits16 little (position + 2) rest).map (unit16 little a b :: ·)

def readUnits32 (little : Bool) (position : Nat) : List UInt8 → Except DecodingError (List Char)
  | a :: b :: c :: d :: rest =>
    let n := unit32 little a b c d
    if 0x110000 ≤ n then
      .error ⟨.utf32 little, position, a, 4, "code point not in range(0x110000)"⟩
    else (readUnits32 little (position + 4) rest).map (charOfUnit n :: ·)
  | [] => .ok []
  | b :: rest => .error ⟨.utf32 little, position, b, rest.length + 1, "truncated data"⟩

/-- The text of some bytes. -/
def decodeJsonBytes (bytes : List UInt8) : Except DecodingError String :=
  let (encoding, mark) := TextEncoding.detect bytes
  let body := bytes.drop mark
  match encoding with
  | .utf8 =>
    match decodeUtf8 body with
    | .ok s => .ok s
    | .error e => .error ⟨.utf8, e.position, e.first, e.length, e.fault.text⟩
  | .utf16 little =>
    (readUnits16 little mark body).map fun units => String.ofList (joinUnits units)
  | .utf32 little => (readUnits32 little mark body).map String.ofList

end QueryGate
