import QueryGate.Json.Value
import QueryGate.Text.Blank
/-! Files of environment variables: one name and value a line, in quotes or not, with comments after a
number sign. A line that cannot be read is passed over. In values `$` and a name in braces stand for
another variable. -/

namespace QueryGate

def isLineEnd (c : Char) : Bool :=
  c = '\n' || c = '\r'

/-- Blanks that do not end a line. -/
def isInlineBlank (c : Char) : Bool :=
  isBlank c && !isLineEnd c

def skipInline (cs : List Char) : List Char :=
  cs.dropWhile isInlineBlank

/-- A part of a line that was read, or the text at which reading had to stop. -/
abbrev LinePart (α : Type) := Except (List Char) (α × List Char)

/-- The characters up to a quote that no backslash precedes; if there is none, up to the last quote. -/
def untilQuote (quote : Char) : List Char → Option (List Char × List Char)
  | [] => none
  | '\\' :: c :: rest =>
    if c = quote then
      ((untilQuote quote rest).map fun (v, r) => ('\\' :: c :: v, r)) <|> some (['\\'], rest)
    else (untilQuote quote (c :: rest)).map fun (v, r) => ('\\' :: v, r)
  | c :: rest =>
    if c = quote then some ([], rest) else (untilQuote quote rest).map fun (v, r) => (c :: v, r)
termination_by cs => cs.length

/-- What a letter after a backslash means between double quotes. -/
def doubleQuoteEscape? : Char → Option Char
  | '\\' => some '\\'
  | '\'' => some '\''
  | '"' => some '"'
  | 'a' => some '\x07'
  | 'b' => some '\x08'
  | 'f' => some '\x0c'
  | 'n' => some '\n'
  | 'r' => some '\r'
  | 't' => some '\t'
  | 'v' => some '\x0b'
  | _ => none

def singleQuoteEscape? : Char → Option Char
  | '\\' => some '\\'
  | '\'' => some '\''
  | _ => none

def decodeEscapes (escape? : Char → Option Char) : List Char → List Char
  | '\\' :: c :: rest =>
    match escape? c with
    | some d => d :: decodeEscapes escape? rest
    | none => '\\' :: decodeEscapes escape? (c :: rest)
  | c :: rest => c :: decodeEscapes escape? rest
  | [] => []
termination_by cs => cs.length

/-- A value without quotes, up to a number sign that blanks precede. -/
def dropComment (cs : List Char) : List Char :=
  match cs with
  | [] => []
  | c :: rest =>
    if isBlank c && (rest.dropWhile isBlank).head? = some '#' then [] else c :: dropComment rest

def readFileValue (cs : List Char) : LinePart String :=
  match cs with
  | '\'' :: rest =>
    match untilQuote '\'' rest with
    | some (v, after) => .ok (String.ofList (decodeEscapes singleQuoteEscape? v), after)
    | none => .error cs
  | '"' :: rest =>
    match untilQuote '"' rest with
    | some (v, after) => .ok (String.ofList (decodeEscapes doubleQuoteEscape? v), after)
    | none => .error cs
  | _ =>
    let line := cs.takeWhile (!isLineEnd ·)
    .ok (String.ofList (trimEndBlanks (dropComment line)), cs.drop line.length)

def exportWord : List Char := "export".toList

/-- The text after the word `export`, if blanks follow it. -/
def skipExport (cs : List Char) : List Char :=
  if exportWord.isPrefixOf cs then
    let after := cs.drop exportWord.length
    if after.head?.any isInlineBlank then skipInline after else cs
  else cs

/-- A name, or none where a comment begins. -/
def readFileName (cs : List Char) : LinePart (Option String) :=
  match cs with
  | '#' :: _ => .ok (none, cs)
  | '\'' :: rest =>
    let name := rest.takeWhile (· ≠ '\'')
    match rest.drop name.length with
    | '\'' :: after => if name.isEmpty then .error cs else .ok (some (String.ofList name), after)
    | _ => .error cs
  | _ =>
    let name := cs.takeWhile fun c => c ≠ '=' && c ≠ '#' && !isBlank c
    if name.isEmpty then .error cs else .ok (some (String.ofList name), cs.drop name.length)

/-- A comment if there is one, and the end of the line. -/
def readLineEnd (cs : List Char) : LinePart Unit :=
  let rest := match skipInline cs with
    | '#' :: comment => comment.dropWhile (!isLineEnd ·)
    | _ => cs
  match skipInline rest with
  | [] => .ok ((), [])
  | '\r' :: '\n' :: after => .ok ((), after)
  | c :: after => if isLineEnd c then .ok ((), after) else .error rest

/-- A name with its value, if a sign of equality follows the name. -/
def readFileLine (cs : List Char) :
    Except (List Char) (Option (String × Option String) × List Char) := do
  let (name, rest) ← readFileName (skipExport cs)
  let rest := skipInline rest
  let (value, rest) ← match rest with
    | '=' :: after => do
      let (v, r) ← readFileValue (skipInline after)
      pure (some v, r)
    | _ => pure (none, rest)
  let ((), rest) ← readLineEnd rest
  pure (name.map (·, value), rest)

/-- All names of a file with their values, from text that need not be at the start of a line. -/
def readFileLines : Nat → List Char → List (String × Option String)
  | 0, _ => []
  | fuel + 1, cs =>
    match cs.dropWhile isBlank with
    | [] => []
    | body =>
      match readFileLine body with
      | .ok (some pair, rest) => pair :: readFileLines fuel rest
      | .ok (none, rest) => readFileLines fuel rest
      | .error stop => readFileLines fuel ((stop.dropWhile (!isLineEnd ·)).drop 1)

abbrev Environment := Members String

/-- A name in braces after a dollar sign, with the text to use when it is not known. -/
def readReference (cs : List Char) : Option (String × String × List Char) :=
  let name := cs.takeWhile fun c => c ≠ '\x7d' && c ≠ ':'
  match cs.drop name.length with
  | '\x7d' :: rest => some (String.ofList name, "", rest)
  | ':' :: '-' :: more =>
    let other := more.takeWhile (· ≠ '\x7d')
    match more.drop other.length with
    | '\x7d' :: rest => some (String.ofList name, String.ofList other, rest)
    | _ => none
  | _ => none

/-- A value with each reference replaced. -/
def expandReferences (known : Environment) : Nat → List Char → List Char
  | 0, cs => cs
  | _ + 1, [] => []
  | fuel + 1, '$' :: '\x7b' :: rest =>
    match readReference rest with
    | some (name, other, after) =>
      ((known.find? name).getD other).toList ++ expandReferences known fuel after
    | none => '$' :: expandReferences known fuel ('\x7b' :: rest)
  | fuel + 1, c :: rest => c :: expandReferences known fuel rest

/-- Adds the values of a file to those found so far; they may refer to one another and to the
environment. A name without a value takes away what was found for it. -/
def addFileValues (environment : Environment) (found : Members (Option String)) :
    List (String × Option String) → Members (Option String)
  | [] => found
  | (name, value) :: rest =>
    let known := found.foldl
      (fun done (n, v) => Members.put done n (v.getD "")) environment
    let expanded := value.map fun v =>
      String.ofList (expandReferences known (v.length + 1) v.toList)
    addFileValues environment (found.put name expanded) rest

/-- Line ends of any kind as line feeds. -/
def unifyLineEnds : List Char → List Char
  | '\r' :: '\n' :: rest => '\n' :: unifyLineEnds rest
  | '\r' :: rest => '\n' :: unifyLineEnds rest
  | c :: rest => c :: unifyLineEnds rest
  | [] => []

/-- The variables that a file sets. -/
def readEnvFile (environment : Environment) (text : String) : Environment :=
  let cs := unifyLineEnds text.toList
  (addFileValues environment [] (readFileLines (cs.length + 1) cs)).filterMap
    fun (name, value) => value.map (name, ·)

end QueryGate
