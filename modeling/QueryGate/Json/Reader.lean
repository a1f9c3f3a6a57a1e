import QueryGate.Json.Value
import QueryGate.Number.Read
/-! Reading JSON text. Beside the standard the words `NaN`, `Infinity` and `-Infinity` are numbers, and
of two members with one name the later value counts. An error names the place where reading stopped. -/

namespace QueryGate

/-- Why a text is not JSON. -/
inductive JsonFault
  | value
  | memberName
  | colon
  | comma
  | controlCharacter
  | unterminatedString
  | escape
  | unicodeEscape
  | extraData
  | byteOrderMark
  /-- An integer with more digits than can be read; the number is their count. -/
  | longInteger (digits : Nat)
  /-- Arrays or objects inside one another beyond the depth that is read. -/
  | deepArray
  | deepObject
deriving DecidableEq

/-- A fault with the number of characters that stood before it. -/
structure JsonError where
  fault : JsonFault
  position : Nat

/-- While reading, a place is the number of characters left. -/
structure JsonStop where
  fault : JsonFault
  left : Nat

def JsonFault.stop {α : Type} (fault : JsonFault) (left : Nat) : Except JsonStop α :=
  .error ⟨fault, left⟩

def isJsonBlank (c : Char) : Bool :=
  c = ' ' || c = '\t' || c = '\n' || c = '\r'

def skipJsonBlanks (cs : List Char) : List Char :=
  cs.dropWhile isJsonBlank

def hexValue? (c : Char) : Option Nat :=
  if '0' ≤ c ∧ c ≤ '9' then some (c.toNat - '0'.toNat)
  else if 'a' ≤ c ∧ c ≤ 'f' then some (c.toNat - 'a'.toNat + 10)
  else if 'A' ≤ c ∧ c ≤ 'F' then some (c.toNat - 'A'.toNat + 10)
  else none

/-- Four hexadecimal digits. -/
def hexUnit? : List Char → Option (Nat × List Char)
  | a :: b :: c :: d :: rest => do
    let n := ((← hexValue? a) * 16 + (← hexValue? b)) * 256 + (← hexValue? c) * 16 + (← hexValue? d)
    pure (n, rest)
  | _ => none

def isHighSurrogate (n : Nat) : Bool :=
  0xd800 ≤ n && n ≤ 0xdbff

def isLowSurrogate (n : Nat) : Bool :=
  0xdc00 ≤ n && n ≤ 0xdfff

def joinSurrogates (high low : Nat) : Nat :=
  0x10000 + (high - 0xd800) * 0x400 + (low - 0xdc00)

/-- A code point as a character; a surrogate on its own becomes the replacement character. -/
def charOfUnit (n : Nat) : Char :=
  if isHighSurrogate n || isLowSurrogate n then '\ufffd' else Char.ofNat n

/-- The unit after `\u`, joined with a second escaped unit when the two are a surrogate pair. -/
def readUnicodeEscape (rest : List Char) : Except JsonStop (Char × List Char) :=
  if rest.length ≤ 4 then JsonFault.unicodeEscape.stop (rest.length + 1) else
  match hexUnit? rest with
  | none => JsonFault.unicodeEscape.stop (rest.length + 1)
  | some (unit, after) =>
    if isHighSurrogate unit && 6 < after.length then
      match after with
      | '\\' :: 'u' :: more =>
        match hexUnit? more with
        | none => JsonFault.unicodeEscape.stop (more.length + 1)
        | some (low, after') =>
          if isLowSurrogate low then .ok (Char.ofNat (joinSurrogates unit low), after')
          else .ok (charOfUnit unit, after)
      | _ => .ok (charOfUnit unit, after)
    else .ok (charOfUnit unit, after)

def simpleEscape? : Char → Option Char
  | '"' => some '"'
  | '\\' => some '\\'
  | '/' => some '/'
  | 'b' => some '\x08'
  | 'f' => some '\x0c'
  | 'n' => some '\n'
  | 'r' => some '\r'
  | 't' => some '\t'
  | _ => none

/-- The characters of a string up to its closing quote. `opened` is the number of characters left at
the opening quote and `done` holds the characters read so far in reverse. -/
def readJsonString (opened : Nat) : Nat → List Char → List Char → Except JsonStop (String × List Char)
  | 0, _, _ => JsonFault.unterminatedString.stop opened
  | _ + 1, _, [] => JsonFault.unterminatedString.stop opened
  | fuel + 1, done, c :: rest =>
    if c = '"' then .ok (String.ofList done.reverse, rest)
    else if c = '\\' then
      match rest with
      | [] => JsonFault.unterminatedString.stop opened
      | 'u' :: more => do
        let (decoded, after) ← readUnicodeEscape more
        readJsonString opened fuel (decoded :: done) after
      | e :: more =>
        match simpleEscape? e with
        | some decoded => readJsonString opened fuel (decoded :: done) more
        | none => JsonFault.escape.stop (rest.length + 1)
    else if c.toNat ≤ 0x1f then JsonFault.controlCharacter.stop (rest.length + 1)
    else readJsonString opened fuel (c :: done) rest

/-- The longest integer text that is read. -/
def maxIntegerDigits : Nat := 4300

/-- A number without its sign. -/
def readJsonNumber (negative : Bool) (cs : List Char) : Except JsonStop (Json × List Char) :=
  let whole := match cs with
    | '0' :: _ => ['0']
    | _ => cs.takeWhile isAsciiDigit
  if whole.isEmpty then JsonFault.value.stop (cs.length + if negative then 1 else 0) else
  let afterWhole := cs.drop whole.length
  let (fraction, afterFraction) := match afterWhole with
    | '.' :: rest =>
      let digits := rest.takeWhile isAsciiDigit
      if digits.isEmpty then ([], afterWhole) else (digits, rest.dropWhile isAsciiDigit)
    | _ => ([], afterWhole)
  let (e, rest) := readExponent afterFraction
  if fraction.isEmpty && rest.length = afterFraction.length then
    if maxIntegerDigits < whole.length then
      JsonFault.stop (.longInteger whole.length) cs.length
    else
      let n : Int := natOfDigits whole
      .ok (.int (if negative then -n else n), rest)
  else
    let x := (DecimalText.mk whole fraction e).toFloat
    .ok (.float (if negative then -x else x), rest)

/-- The text after a word, if the word stands here. -/
def afterWord? (word : String) (cs : List Char) : Option (List Char) :=
  if word.toList.isPrefixOf cs then some (cs.drop word.length) else none

def readJsonWord (cs : List Char) : Option (Json × List Char) :=
  ((afterWord? "null" cs).map (Json.null, ·))
    <|> ((afterWord? "true" cs).map (Json.bool true, ·))
    <|> ((afterWord? "false" cs).map (Json.bool false, ·))
    <|> ((afterWord? "NaN" cs).map (Json.float (0.0 / 0.0), ·))
    <|> ((afterWord? "Infinity" cs).map (Json.float (1.0 / 0.0), ·))
    <|> ((afterWord? "-Infinity" cs).map (Json.float (-1.0 / 0.0), ·))

mutual
/-- One value, no blanks before it. Beside the fuel the reader is told how deep arrays and objects may still
stand inside one another. -/
def readJsonValue : Nat → Nat → List Char → Except JsonStop (Json × List Char)
  | 0, _, cs => JsonFault.value.stop cs.length
  | fuel + 1, room, cs =>
    match cs with
    | [] => JsonFault.value.stop 0
    | '"' :: rest => do
      let (s, after) ← readJsonString cs.length cs.length [] rest
      pure (.string s, after)
    | '[' :: rest =>
      if room = 0 then JsonFault.deepArray.stop cs.length else
      match skipJsonBlanks rest with
      | ']' :: after => .ok (.array [], after)
      | body => readJsonItems fuel (room - 1) [] body
    | '\x7b' :: rest =>
      if room = 0 then JsonFault.deepObject.stop cs.length else
      match skipJsonBlanks rest with
      | '\x7d' :: after => .ok (.object [], after)
      | body => readJsonMembers fuel (room - 1) [] body
    | _ =>
      match readJsonWord cs with
      | some found => .ok found
      | none =>
        match cs with
        | '-' :: rest => readJsonNumber true rest
        | _ => readJsonNumber false cs

/-- The items of an array from one item on, those before it in reverse. -/
def readJsonItems : Nat → Nat → List Json → List Char → Except JsonStop (Json × List Char)
  | 0, _, _, cs => JsonFault.value.stop cs.length
  | fuel + 1, room, done, cs => do
    let (item, after) ← readJsonValue fuel room cs
    match skipJsonBlanks after with
    | ']' :: rest => pure (.array (item :: done).reverse, rest)
    | ',' :: rest => readJsonItems fuel room (item :: done) (skipJsonBlanks rest)
    | rest => JsonFault.comma.stop rest.length

/-- The members of an object from one member on. -/
def readJsonMembers : Nat → Nat → Members Json → List Char → Except JsonStop (Json × List Char)
  | 0, _, _, cs => JsonFault.value.stop cs.length
  | fuel + 1, room, done, cs =>
    match cs with
    | '"' :: rest => do
      let (name, afterName) ← readJsonString cs.length cs.length [] rest
      match skipJsonBlanks afterName with
      | ':' :: more => do
        let (value, after) ← readJsonValue fuel room (skipJsonBlanks more)
        let members := done.put name value
        match skipJsonBlanks after with
        | '\x7d' :: rest => pure (.object members, rest)
        | ',' :: rest => readJsonMembers fuel room members (skipJsonBlanks rest)
        | rest => JsonFault.comma.stop rest.length
      | stop => JsonFault.colon.stop stop.length
    | _ => JsonFault.memberName.stop cs.length
end

/-- Reads a whole text as one value whose arrays and objects do not stand deeper inside one another than a limit. -/
def Json.readWithin (limit : Nat) (text : String) : Except JsonError Json :=
  let cs := text.toList
  let outcome : Except JsonStop (Json × List Char) := do
    if cs.head? = some '\ufeff' then JsonFault.byteOrderMark.stop cs.length
    else
      let (value, after) ← readJsonValue (2 * cs.length + 1) limit (skipJsonBlanks cs)
      match skipJsonBlanks after with
      | [] => pure (value, [])
      | rest => JsonFault.extraData.stop rest.length
  match outcome with
  | .ok (value, _) => .ok value
  | .error stop => .error ⟨stop.fault, cs.length - stop.left⟩

/-- How deep arrays and objects may stand inside one another. -/
def maxJsonDepth : Nat := 980

def Json.read (text : String) : Except JsonError Json :=
  Json.readWithin maxJsonDepth text

def JsonFault.text : JsonFault → String
  | .value => "Expecting value"
  | .memberName => "Expecting property name enclosed in double quotes"
  | .colon => "Expecting ':' delimiter"
  | .comma => "Expecting ',' delimiter"
  | .controlCharacter => "Invalid control character at"
  | .unterminatedString => "Unterminated string starting at"
  | .escape => "Invalid \\escape"
  | .unicodeEscape => "Invalid \\uXXXX escape"
  | .extraData => "Extra data"
  | .byteOrderMark => "Unexpected UTF-8 BOM (decode using utf-8-sig)"
  | .longInteger digits =>
    "Exceeds the limit (4300 digits) for integer string conversion: value has "
      ++ toString digits ++ " digits; use sys.set_int_max_str_digits() to increase the limit"
  | .deepArray => "maximum recursion depth exceeded while decoding a JSON array from a unicode string"
  | .deepObject => "maximum recursion depth exceeded while decoding a JSON object from a unicode string"

/-- The fault with its line, its column in that line and its place in the text, the first two counted
from one. -/
def JsonError.message (e : JsonError) (text : String) : String :=
  let before := text.toList.take e.position
  let line := before.count '\n' + 1
  let column := (before.reverse.takeWhile (· ≠ '\n')).length + 1
  s!"{e.fault.text}: line {line} column {column} (char {e.position})"

end QueryGate
