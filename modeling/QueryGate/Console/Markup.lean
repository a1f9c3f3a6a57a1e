import QueryGate.Console.Emoji
import QueryGate.Console.Style
import QueryGate.Failure
import QueryGate.Number.FloatText
/-! Text with tags in square brackets. A tag begins with a small letter or one of three marks; a
backslash before it makes it plain text, and two backslashes stand for one. -/

namespace QueryGate

def isTagStart (c : Char) : Bool :=
  c.isLower || c = '#' || c = '/' || c = '@'

/-- The text up to the closing bracket, if no bracket opens before it, and the text after it. -/
def upToClosing : List Char → Option (List Char × List Char)
  | [] => none
  | ']' :: rest => some ([], rest)
  | '[' :: _ => none
  | c :: rest => (upToClosing rest).map fun (inside, after) => (c :: inside, after)

/-- The inside of a tag that begins here, and the text after it. -/
def tagAt? : List Char → Option (List Char × List Char)
  | '[' :: c :: rest =>
    if isTagStart c then (upToClosing rest).map fun (inside, after) => (c :: inside, after)
    else none
  | _ => none

/-- The backslashes at the start of a text and the tag after them. -/
def escapedTag? (cs : List Char) : Option (Nat × List Char × List Char) :=
  let slashes := cs.takeWhile (· = '\\')
  (tagAt? (cs.drop slashes.length)).map fun (inside, after) => (slashes.length, inside, after)

def backslashes (n : Nat) : List Char :=
  List.replicate n '\\'

def bracketedChars (inside : List Char) : List Char :=
  '[' :: (inside ++ [']'])

/-- Escapes each tag; the fuel is the length of the text. -/
def escapeTags : Nat → List Char → List Char
  | fuel + 1, c :: rest =>
    match escapedTag? (c :: rest) with
    | some (count, inside, after) =>
      backslashes (2 * count + 1) ++ bracketedChars inside ++ escapeTags fuel after
    | none => c :: escapeTags fuel rest
  | _, cs => cs

/-- A single backslash at the very end is doubled, so that it does not escape what follows. -/
def guardLastBackslash (cs : List Char) : List Char :=
  match cs.reverse with
  | '\\' :: '\\' :: _ => cs
  | '\\' :: _ => cs ++ ['\\']
  | _ => cs

/-- A text as markup that is meant to show it. -/
def escapeMarkup (cs : List Char) : List Char :=
  guardLastBackslash (escapeTags cs.length cs)

/-- A stretch of plain text, or a tag with its place. -/
inductive MarkupPart
  | plain (cs : List Char)
  | tag (place : Nat) (name : List Char) (value : Option (List Char))
deriving DecidableEq, Repr

def MarkupPart.ofTag (place : Nat) (inside : List Char) : MarkupPart :=
  match inside.dropWhile (· ≠ '=') with
  | _ :: value => .tag place (inside.takeWhile (· ≠ '=')) (some value)
  | [] => .tag place inside none

def plainPart (gathered : List Char) : List MarkupPart :=
  if gathered.isEmpty then [] else [.plain gathered.reverse]

/-- The parts of a text from a place on; `gathered` holds the plain text before, backwards. -/
def markupParts (place : Nat) (gathered : List Char) : Nat → List Char → List MarkupPart
  | fuel + 1, c :: rest =>
    match escapedTag? (c :: rest) with
    | none => markupParts (place + 1) (c :: gathered) fuel rest
    | some (count, inside, after) =>
      let literal := if count < 2 then [] else [MarkupPart.plain (backslashes (count / 2))]
      let part := if count % 2 = 1 then .plain (bracketedChars inside)
        else .ofTag (place + count) inside
      plainPart gathered ++ literal
        ++ part :: markupParts (place + count + inside.length + 2) [] fuel after
  | _, _ => plainPart gathered

/-- A bracket keeps no backslash before it. -/
def openBrackets : List Char → List Char
  | '\\' :: '[' :: rest => '[' :: openBrackets rest
  | c :: rest => c :: openBrackets rest
  | [] => []

/-- Controls that a console leaves out. -/
def isDroppedControl (c : Char) : Bool :=
  c.toNat ∈ [7, 8, 11, 12, 13]

/-- The text that a stretch of plain text shows. -/
def shownPlain (cs : List Char) : List Char :=
  (withEmoji (openBrackets cs)).filter (!isDroppedControl ·)

def tagText (name : List Char) (value : Option (List Char)) : String :=
  String.ofList (bracketedChars (name ++ (value.map ('=' :: ·)).getD []))

/-- Takes the last style of a name out of the open ones. -/
def closeStyle (name : String) : List String → Option (List String)
  | [] => none
  | s :: rest => if s = name then some rest else (closeStyle name rest).map (s :: ·)

/-- The styles that are open after a tag. -/
def applyTag (place : Nat) (name : List Char) (value : Option (List Char)) (opened : List String) :
    Except Fault (List String) :=
  match name with
  | '/' :: closing =>
    let wanted := trimText (String.ofList closing)
    if wanted.isEmpty then
      match opened with
      | _ :: rest => .ok rest
      | [] => .error ⟨.markup, "closing tag '[/]' at position " ++ digitsText place
          ++ " has nothing to close"⟩
    else
      match closeStyle (styleName wanted) opened with
      | some rest => .ok rest
      | none => .error ⟨.markup, "closing tag '" ++ tagText name value ++ "' at position "
          ++ digitsText place ++ " doesn't match any open tag"⟩
  | _ => .ok (styleName (String.ofList name) :: opened)

/-- The text that parts show, the styles being open that stand in the list. -/
def showParts (opened : List String) : List MarkupPart → Except Fault (List Char)
  | [] => .ok []
  | .plain cs :: rest => do return shownPlain cs ++ (← showParts opened rest)
  | .tag place name value :: rest => do showParts (← applyTag place name value opened) rest

/-- The text that a console shows for markup. -/
def showMarkup (cs : List Char) : Except Fault (List Char) :=
  showParts [] (markupParts 0 [] cs.length cs)

end QueryGate
