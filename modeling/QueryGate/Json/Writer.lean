import QueryGate.Json.Value
import QueryGate.Number.FloatText
/-! Writing JSON text, either compact with all printable characters as they are, or spaced and in ASCII
alone. -/

namespace QueryGate

/-- The choices that a JSON text makes. -/
structure JsonLayout where
  comma : String
  colon : String
  ascii : Bool

/-- Spaces after commas and colons, every other script escaped. -/
def JsonLayout.spaced : JsonLayout := ⟨", ", ": ", true⟩

/-- No spaces, every other script as it is. -/
def JsonLayout.compact : JsonLayout := ⟨",", ":", false⟩

def hexDigit (n : Nat) : Char :=
  Nat.digitChar n

def hexUnitChars (n : Nat) : List Char :=
  [hexDigit (n / 4096 % 16), hexDigit (n / 256 % 16), hexDigit (n / 16 % 16), hexDigit (n % 16)]

def unicodeEscapeChars (n : Nat) : List Char :=
  '\\' :: 'u' :: hexUnitChars n

/-- A character of another script as one or two escaped units. -/
def escapedUnits (c : Char) : List Char :=
  let n := c.toNat
  if n < 0x10000 then unicodeEscapeChars n
  else
    unicodeEscapeChars (0xd800 + (n - 0x10000) / 0x400)
      ++ unicodeEscapeChars (0xdc00 + (n - 0x10000) % 0x400)

def jsonCharChars (ascii : Bool) (c : Char) : List Char :=
  if c = '"' then ['\\', '"']
  else if c = '\\' then ['\\', '\\']
  else if c = '\n' then ['\\', 'n']
  else if c = '\r' then ['\\', 'r']
  else if c = '\t' then ['\\', 't']
  else if c = '\x0c' then ['\\', 'f']
  else if c = '\x08' then ['\\', 'b']
  else if c.toNat < 0x20 then unicodeEscapeChars c.toNat
  else if ascii && 0x7f ≤ c.toNat then escapedUnits c
  else [c]

def jsonStringChars (ascii : Bool) (cs : List Char) : List Char :=
  '"' :: (cs.flatMap (jsonCharChars ascii) ++ ['"'])

def JsonLayout.quoted (layout : JsonLayout) (s : String) : String :=
  String.ofList (jsonStringChars layout.ascii s.toList)

mutual
def Json.render (layout : JsonLayout) : Json → String
  | .null => "null"
  | .bool b => if b then "true" else "false"
  | .int n => intText n
  | .float x => FloatLayout.json.text x
  | .string s => layout.quoted s
  | .array items => "[" ++ layout.comma.intercalate (renderItems layout items) ++ "]"
  | .object members =>
    "\x7b" ++ layout.comma.intercalate (renderMembers layout members) ++ "\x7d"

def renderItems (layout : JsonLayout) : List Json → List String
  | [] => []
  | item :: rest => item.render layout :: renderItems layout rest

def renderMembers (layout : JsonLayout) : List (String × Json) → List String
  | [] => []
  | (name, value) :: rest =>
    (layout.quoted name ++ layout.colon ++ value.render layout) :: renderMembers layout rest
end

def Json.spaced (j : Json) : String :=
  j.render .spaced

def Json.compact (j : Json) : String :=
  j.render .compact

end QueryGate
