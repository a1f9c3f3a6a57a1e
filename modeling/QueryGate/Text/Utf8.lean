/-! Reading UTF-8. A damaged sequence ends before the first byte that cannot continue it; reading
either stops there with a fault or puts one replacement character in its place. -/

namespace QueryGate

/-- Why bytes are not a character. -/
inductive Utf8Fault
  | start
  | continuation
  | cut
deriving DecidableEq

def Utf8Fault.text : Utf8Fault → String
  | .start => "invalid start byte"
  | .continuation => "invalid continuation byte"
  | .cut => "unexpected end of data"

/-- Bounds of the bytes that may follow a first byte, if that byte can begin a character. -/
def continuationBounds (first : Nat) : Option (List (Nat × Nat)) :=
  let any := (0x80, 0xbf)
  if first < 0x80 then some []
  else if first < 0xc2 then none
  else if first < 0xe0 then some [any]
  else if first = 0xe0 then some [(0xa0, 0xbf), any]
  else if first = 0xed then some [(0x80, 0x9f), any]
  else if first < 0xf0 then some [any, any]
  else if first = 0xf0 then some [(0x90, 0xbf), any, any]
  else if first < 0xf4 then some [any, any, any]
  else if first = 0xf4 then some [(0x80, 0x8f), any, any]
  else none

/-- The bits that a first byte gives to its character. -/
def firstBits (first : Nat) : Nat :=
  if first < 0x80 then first
  else if first < 0xe0 then first % 0x20
  else if first < 0xf0 then first % 0x10
  else first % 0x08

/-- Reads the bytes after the first one, `used` of the sequence being read already. -/
def readContinuation (bits used : Nat) :
    List (Nat × Nat) → List UInt8 → Except (Utf8Fault × Nat) Char
  | [], _ => .ok (Char.ofNat bits)
  | _ :: _, [] => .error (.cut, used)
  | (low, high) :: bounds, b :: bs =>
    if low ≤ b.toNat ∧ b.toNat ≤ high then
      readContinuation (bits * 0x40 + b.toNat % 0x40) (used + 1) bounds bs
    else .error (.continuation, used)

/-- The next character and the count of its bytes, or a fault and the count of the damaged bytes. -/
def readUtf8Char (first : UInt8) (rest : List UInt8) : Except (Utf8Fault × Nat) (Char × Nat) :=
  match continuationBounds first.toNat with
  | none => .error (.start, 1)
  | some bounds =>
    (readContinuation (firstBits first.toNat) 1 bounds rest).map (fun c => (c, bounds.length + 1))

/-- A fault with the place of its first byte and the count of its bytes. -/
structure Utf8Error where
  fault : Utf8Fault
  position : Nat
  first : UInt8
  length : Nat

def decodeUtf8From (position : Nat) (skip : Nat) : List UInt8 → Except Utf8Error (List Char)
  | [] => .ok []
  | b :: bs =>
    match skip with
    | k + 1 => decodeUtf8From (position + 1) k bs
    | 0 =>
      match readUtf8Char b bs with
      | .ok (c, n) => (decodeUtf8From (position + 1) (n - 1) bs).map (c :: ·)
      | .error (fault, n) => .error ⟨fault, position, b, n⟩

def decodeUtf8 (bytes : List UInt8) : Except Utf8Error String :=
  (decodeUtf8From 0 0 bytes).map String.ofList

/-- Reads bytes as characters, `skip` of them being part of what was read before. -/
def decodeLossyChars (skip : Nat) : List UInt8 → List Char
  | [] => []
  | b :: bs =>
    match skip with
    | k + 1 => decodeLossyChars k bs
    | 0 =>
      match readUtf8Char b bs with
      | .ok (c, n) => c :: decodeLossyChars (n - 1) bs
      | .error (_, n) => '\ufffd' :: decodeLossyChars (n - 1) bs

/-- The text of some bytes, damaged sequences each shown as one replacement character. -/
def decodeLossy (bytes : List UInt8) : String :=
  String.ofList (decodeLossyChars 0 bytes)

def encodeUtf8 (s : String) : List UInt8 :=
  s.toUTF8.data.toList

end QueryGate
