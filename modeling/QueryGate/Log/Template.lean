import QueryGate.Number.Fixed
import QueryGate.Number.Power
import QueryGate.Text.CaseMap
import QueryGate.Value.Literal
/-! Message templates. A directive after `%` takes the next argument, or the named one, and writes it
as a text, a whole number, a number with digits after the point, or a single character. -/

namespace QueryGate

/-- How a directive lays its argument out. -/
structure Directive where
  leftAligned : Bool := false
  plus : Bool := false
  blank : Bool := false
  alternate : Bool := false
  zeroFilled : Bool := false
  width : Nat := 0
  precision : Option Nat := none

/-- The arguments that are left, and the map that names are looked up in. -/
structure Supply where
  named : Option (List (Cell × Cell))
  left : List Cell

abbrev Filling := StateT Supply (Except Fault)

def Filling.fault {α : Type} (kind : FaultKind) (message : String) : Filling α :=
  throw ⟨kind, message⟩

def nextArgument : Filling Cell := do
  match (← get).left with
  | cell :: left =>
    modify fun s => { s with left }
    return cell
  | [] => Filling.fault .type "not enough arguments for format string"

/-- The text up to the bracket that closes, brackets inside it being paired. -/
def bracketed (depth : Nat) : List Char → Option (List Char × List Char)
  | [] => none
  | ')' :: rest =>
    match depth with
    | 0 => some ([], rest)
    | depth + 1 => do let (key, after) ← bracketed depth rest; return (')' :: key, after)
  | '(' :: rest => do let (key, after) ← bracketed (depth + 1) rest; return ('(' :: key, after)
  | c :: rest => do let (key, after) ← bracketed depth rest; return (c :: key, after)

/-- A name in brackets makes its value the only argument. -/
def takeName (cs : List Char) : Filling (List Char) := do
  match cs with
  | '(' :: rest =>
    match (← get).named with
    | none => Filling.fault .type "format requires a mapping"
    | some entries =>
      match bracketed 0 rest with
      | none => Filling.fault .value "incomplete format key"
      | some (key, after) =>
        let name := String.ofList key
        match entries.find? (fun (k, _) => k.sameKey (.text name)) with
        | none => Filling.fault .key name
        | some (_, value) =>
          modify fun s => { s with left := [value] }
          return after
  | _ => return cs

def takeFlags (d : Directive) : List Char → Directive × List Char
  | '-' :: rest => takeFlags { d with leftAligned := true } rest
  | '+' :: rest => takeFlags { d with plus := true } rest
  | ' ' :: rest => takeFlags { d with blank := true } rest
  | '#' :: rest => takeFlags { d with alternate := true } rest
  | '0' :: rest => takeFlags { d with zeroFilled := true } rest
  | cs => (d, cs)

/-- A count in digits, or a star for one that is an argument. -/
def takeCount (cs : List Char) : Filling (Int × List Char) := do
  match cs with
  | '*' :: rest =>
    match ← nextArgument with
    | .int n => return (n, rest)
    | .bool b => return (if b then 1 else 0, rest)
    | _ => Filling.fault .type "* wants int"
  | cs => return (natOfDigits (cs.takeWhile isAsciiDigit), cs.dropWhile isAsciiDigit)

def takeDirective (cs : List Char) : Filling (Directive × List Char) := do
  let (d, cs) := takeFlags {} (← takeName cs)
  let (width, cs) ← takeCount cs
  let d := { d with width := width.natAbs, leftAligned := d.leftAligned || width < 0 }
  let (d, cs) ← match cs with
    | '.' :: rest => do
      let (precision, after) ← takeCount rest
      pure ({ d with precision := some precision.toNat }, after)
    | cs => pure (d, cs)
  match cs with
  | c :: rest => return (d, if c ∈ ['h', 'l', 'L'] then rest else cs)
  | [] => return (d, cs)

/-- A text with the fill that its width asks for. -/
def Directive.padded (d : Directive) (sign mark digits : List Char) (numeric : Bool) : List Char :=
  let missing := d.width - (sign.length + mark.length + digits.length)
  if d.leftAligned then sign ++ mark ++ digits ++ List.replicate missing ' '
  else if numeric && d.zeroFilled then sign ++ mark ++ zeros missing ++ digits
  else List.replicate missing ' ' ++ sign ++ mark ++ digits

def Directive.signOf (d : Directive) (negative : Bool) : List Char :=
  if negative then ['-'] else if d.plus then ['+'] else if d.blank then [' '] else []

def Directive.textChars (d : Directive) (s : String) : List Char :=
  let cs := s.toList
  d.padded [] [] (match d.precision with | some n => cs.take n | none => cs) false

def Directive.wholeChars (d : Directive) (base : Nat) (mark : List Char) (n : Int) : List Char :=
  let digits := Nat.toDigits base n.natAbs
  d.padded (d.signOf (n < 0)) (if d.alternate then mark else [])
    (zeros (d.precision.getD 0 - digits.length) ++ digits) true

/-- The integer part of a number. -/
def Cell.whole : Cell → Filling Int
  | .int n => return n
  | .bool b => return if b then 1 else 0
  | .float x =>
    match floatParts x with
    | .nan => Filling.fault .value "cannot convert float NaN to integer"
    | .infinite _ => Filling.fault .overflow "cannot convert float infinity to integer"
    | _ => return floatTrunc x
  | .decimal (.finite negative digits exponent) =>
    return signedNat negative (digits * tenTo exponent.toNat / tenTo (-exponent).toNat)
  | .decimal (.infinite _) => Filling.fault .overflow "cannot convert Infinity to integer"
  | .decimal _ => Filling.fault .value "cannot convert NaN to integer"
  | cell =>
    Filling.fault .type ("%d format: a real number is required, not " ++ cell.typeName)

def Cell.exactWhole (letter : Char) : Cell → Filling Int
  | .int n => return n
  | .bool b => return if b then 1 else 0
  | cell => Filling.fault .type (String.ofList ['%', letter]
      ++ " format: an integer is required, not " ++ cell.typeName)

/-- The nearest floating-point number. -/
def Cell.real : Cell → Filling Float
  | .int n => return Float.ofInt n
  | .bool b => return if b then 1.0 else 0.0
  | .float x => return x
  | .decimal d =>
    match d.toFloat? with
    | some x => return x
    | none => Filling.fault .value "cannot convert signaling NaN to float"
  | cell => Filling.fault .type ("must be real number, not " ++ cell.typeName)

def Directive.realChars (d : Directive) (letter : Char) (x : Float) : List Char :=
  let places := d.precision.getD 6
  let size (v : Binary) : List Char :=
    match letter with
    | 'f' | 'F' => v.fixedChars places d.alternate
    | 'e' | 'E' => v.scientificChars places d.alternate
    | _ => v.significantChars places d.alternate
  let (negative, digits) := match floatParts x with
    | .nan => (false, "nan".toList)
    | .infinite negative => (negative, "inf".toList)
    | .zero negative => (negative, size .zero)
    | .finite negative v => (negative, size v)
  d.padded (d.signOf negative) []
    (if letter ∈ ['F', 'E', 'G'] then upperChars digits else digits) true

/-- A text in ASCII, all else escaped. -/
def asciiChars (cs : List Char) : List Char :=
  cs.flatMap fun c =>
    let n := c.toNat
    if n < 0x80 then [c]
    else if n < 0x100 then '\\' :: 'x' :: hexByteChars n
    else if n < 0x10000 then unicodeEscapeChars n
    else '\\' :: 'U' :: (hexUnitChars (n / 0x10000) ++ hexUnitChars (n % 0x10000))

def Cell.character : Cell → Filling Char
  | .int n =>
    if 0 ≤ n ∧ n < 0x110000 then return Char.ofNat n.toNat
    else Filling.fault .overflow "%c arg not in range(0x110000)"
  | .text s =>
    match s.toList with
    | [c] => return c
    | _ => Filling.fault .type "%c requires int or char"
  | _ => Filling.fault .type "%c requires int or char"

/-- One argument as its directive writes it; `index` is the place of the letter. -/
def Directive.write (d : Directive) (letter : Char) (index : Nat) (cell : Cell) :
    Filling (List Char) := do
  match letter with
  | 's' => return d.textChars (← cell.plainText)
  | 'r' => return d.textChars (← cell.literal)
  | 'a' => return d.textChars (String.ofList (asciiChars (← cell.literal).toList))
  | 'd' | 'i' | 'u' => return d.wholeChars 10 [] (← cell.whole)
  | 'o' => return d.wholeChars 8 ['0', 'o'] (← cell.exactWhole letter)
  | 'x' => return d.wholeChars 16 ['0', 'x'] (← cell.exactWhole letter)
  | 'X' => return upperChars (d.wholeChars 16 ['0', 'x'] (← cell.exactWhole letter))
  | 'e' | 'E' | 'f' | 'F' | 'g' | 'G' => return d.realChars letter (← cell.real)
  | 'c' => return d.padded [] [] [← cell.character] false
  | _ =>
    let shown := if 31 ≤ letter.toNat ∧ letter.toNat < 126 then letter else '?'
    Filling.fault .value ("unsupported format character '" ++ String.ofList [shown] ++ "' (0x"
      ++ String.ofList (Nat.toDigits 16 letter.toNat) ++ ") at index " ++ digitsText index)

/-- Fills a template of `length` characters, of which `cs` are still to be read. -/
def fillChars (length : Nat) : Nat → List Char → Filling (List Char)
  | fuel + 1, '%' :: rest => do
    let (d, cs) ← takeDirective rest
    match cs with
    | [] => Filling.fault .value "incomplete format"
    | '%' :: after => return '%' :: (← fillChars length fuel after)
    | letter :: after =>
      let written ← d.write letter (length - cs.length) (← nextArgument)
      return written ++ (← fillChars length fuel after)
  | fuel + 1, c :: rest => return c :: (← fillChars length fuel rest)
  | _, _ => return []

/-- The arguments behind a template: those of a tuple one by one, or any other value as the only
one. A map also gives its values by name. -/
def Supply.of : Cell → Supply
  | .tuple items => ⟨none, items⟩
  | .map entries => ⟨some entries, [.map entries]⟩
  | .list items => ⟨some [], [.list items]⟩
  | cell => ⟨none, [cell]⟩

/-- Fills a template. Arguments that nothing asked for are an error, unless they have names. -/
def fillTemplate (template : String) (arguments : Cell) : Except Fault String := do
  let cs := template.toList
  let (filled, supply) ← (fillChars cs.length cs.length cs).run (.of arguments)
  if supply.named.isNone && !supply.left.isEmpty then
    .error ⟨.type, "not all arguments converted during string formatting"⟩
  else return String.ofList filled

end QueryGate
