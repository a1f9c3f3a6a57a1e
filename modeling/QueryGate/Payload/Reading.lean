import QueryGate.Json.Value
import QueryGate.Number.Power
import QueryGate.Number.Read
import QueryGate.Number.Shortest
import QueryGate.Payload.Issue
import QueryGate.Text.Blank
import QueryGate.Text.CaseMap
/-! Lenient reading of values in a payload: numbers and truth values may come as text, and whole
floating-point numbers pass for integers. -/

namespace QueryGate

def readText : Json → Checked String
  | .string s => .ok s
  | _ => .issue .notString

/-- Null, or what the reading gives. -/
def readOptional {α : Type} (read : Json → Checked α) : Json → Checked (Option α)
  | .null => .ok none
  | j => (read j).map some

def readList {α : Type} (read : Json → Checked α) : Json → Checked (List α)
  | .array items => Checked.each read 0 items
  | _ => .issue .notList

/-- The members of an object. -/
def readRecord (name : String) : Json → Checked (Members Json)
  | .object members => .ok members
  | _ => .issue (.notRecord name)

def readObject : Json → Checked (Members Json)
  | .object members => .ok members
  | _ => .issue .notObject

/-- The member under the first of some names that is there. -/
def firstMember (members : Members Json) : List String → Option (String × Json)
  | [] => none
  | name :: names =>
    match members.find? name with
    | some value => some (name, value)
    | none => firstMember members names

/-- A field that has a default. -/
def fieldOr {α : Type} (members : Members Json) (names : List String) (default : α)
    (read : Json → Checked α) : Checked α :=
  match firstMember members names with
  | some (name, value) => (read value).under name
  | none => .ok default

/-- A field that has to be there; its first name is reported when it is not. -/
def fieldOf {α : Type} (members : Members Json) (names : List String)
    (read : Json → Checked α) : Checked α :=
  match firstMember members names with
  | some (name, value) => (read value).under name
  | none => (Checked.issue .absent).under (names.headD "")

/-- Blanks round a number. The information separators are not among them. -/
def isNumberBlank (c : Char) : Bool :=
  isBlank c && !(0x1c ≤ c.toNat && c.toNat ≤ 0x1f)

def trimNumber (s : String) : List Char :=
  trimOf isNumberBlank s.toList

def hasDoubledUnderscore : List Char → Bool
  | '_' :: '_' :: _ => true
  | _ :: rest => hasDoubledUnderscore rest
  | [] => false

/-- A numeral without the underscores between its digits, if they stand well. -/
def withoutUnderscores? (cs : List Char) : Option (List Char) :=
  if cs.head? = some '_' ∨ cs.getLast? = some '_' ∨ hasDoubledUnderscore cs then none
  else some (cs.filter (· ≠ '_'))

/-- A numeral without a point that only zeros follow. -/
def withoutZeroFraction (cs : List Char) : List Char :=
  match cs.dropWhile (· ≠ '.') with
  | '.' :: fraction => if fraction.all (· = '0') then cs.takeWhile (· ≠ '.') else cs
  | _ => cs

/-- Digits with a sign in front or none. -/
def readSignedDigits (cs : List Char) : Option Int :=
  let (negative, digits) := match cs with
    | '-' :: rest => (true, rest)
    | '+' :: rest => (false, rest)
    | rest => (false, rest)
  if digits.isEmpty || !digits.all isAsciiDigit then none
  else
    let n : Int := natOfDigits digits
    some (if negative then -n else n)

/-- The longest numeral that is read as an integer. -/
def maxIntegerText : Nat := 4300

def readIntegerText (s : String) : Checked Int :=
  let cs := trimNumber s
  if maxIntegerText < cs.length then .issue .longInteger
  else
    match (withoutUnderscores? (withoutZeroFraction cs)).bind readSignedDigits with
    | some n => .ok n
    | none => .issue .unclearInteger

/-- The greatest size of a floating-point number that is taken for an integer. -/
def maxFloatInteger : Nat := twoTo 63

/-- The integer that a floating-point number is, and why it is none. -/
def integerOfFloat (x : Float) : Checked Int :=
  match floatParts x with
  | .nan | .infinite _ => .issue .notFinite
  | .zero _ => .ok 0
  | .finite negative v =>
    let unit := twoTo (-v.exponent).toNat
    let size := v.mantissa * twoTo v.exponent.toNat
    if size % unit ≠ 0 then .issue .fractionalInteger
    else if maxFloatInteger < size / unit then .issue .longInteger
    else
      let n : Int := size / unit
      .ok (if negative then -n else n)

def readInteger : Json → Checked Int
  | .int n => .ok n
  | .bool b => .ok (if b then 1 else 0)
  | .float x => integerOfFloat x
  | .string s => readIntegerText s
  | _ => .issue .notInteger

/-- Words for the values that are no finite number. -/
def specialNumber? (cs : List Char) : Option Float :=
  let word := String.ofList (lowerChars cs)
  if word = "nan" then some (0.0 / 0.0)
  else if word = "inf" ∨ word = "infinity" then some (1.0 / 0.0)
  else none

def readUnsignedNumber (cs : List Char) : Option Float :=
  match DecimalText.read cs with
  | some (d, []) => some d.toFloat
  | _ => specialNumber? cs

def readNumberChars (cs : List Char) : Option Float :=
  match cs with
  | '-' :: rest => (readUnsignedNumber rest).map (fun x => -x)
  | '+' :: rest => readUnsignedNumber rest
  | rest => readUnsignedNumber rest

def readNumberText (s : String) : Checked Float :=
  match (withoutUnderscores? (trimNumber s)).bind readNumberChars with
  | some x => .ok x
  | none => .issue .unclearNumber

def readNumber : Json → Checked Float
  | .float x => .ok x
  | .int n =>
    let x := Float.ofInt n
    if x.isInf then .issue .notNumber else .ok x
  | .bool b => .ok (if b then 1.0 else 0.0)
  | .string s => readNumberText s
  | _ => .issue .notNumber

def trueWords : List String := ["1", "t", "true", "y", "yes", "on"]

def falseWords : List String := ["0", "f", "false", "n", "no", "off"]

def booleanOfInt (n : Int) : Checked Bool :=
  if n = 0 then .ok false else if n = 1 then .ok true else .issue .unclearBoolean

def readBooleanText (s : String) : Checked Bool :=
  let word := String.ofList (s.toList.map Char.toLower)
  if trueWords.contains word then .ok true
  else if falseWords.contains word then .ok false
  else .issue .unclearBoolean

def readBoolean : Json → Checked Bool
  | .bool b => .ok b
  | .string s => readBooleanText s
  | .int n => booleanOfInt n
  | .float x =>
    match integerOfFloat x with
    | .ok n => booleanOfInt n
    | .wrong _ _ => .issue .notBoolean
  | _ => .issue .notBoolean

/-- An integer that is not below a bound. -/
def readIntegerFrom (bound : Nat) (j : Json) : Checked Int :=
  (readInteger j).andThen fun n => if (bound : Int) ≤ n then .ok n else .issue (.atLeast bound)

def readNumberFromZero (j : Json) : Checked Float :=
  (readNumber j).andThen fun x => if 0.0 ≤ x then .ok x else .issue (.atLeast 0)

def readPositiveNumber (j : Json) : Checked Float :=
  (readNumber j).andThen fun x => if 0.0 < x then .ok x else .issue (.above 0)

end QueryGate
