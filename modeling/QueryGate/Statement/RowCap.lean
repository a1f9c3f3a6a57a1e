import QueryGate.Statement.Catalog
import QueryGate.Text.WordChar
import QueryGate.Text.Blank
import QueryGate.Number.FloatText
/-! Capping the rows of a statement that sets no limit of its own. The appended text never lands inside
a line comment. -/

namespace QueryGate

def limitWord : List Char := "LIMIT".toList

/-- Whether the word stands here with no word character on either side, `before` being the character
in front. -/
def wordHere (word : List Char) (before : Option Char) (cs : List Char) : Bool :=
  !before.any isWordChar &&
    match afterLetters? word cs with
    | some rest => !rest.head?.any isWordChar
    | none => false

/-- Whether a word stands on its own somewhere in the text, in whatever case. -/
def hasWordFrom (word : List Char) (before : Option Char) : List Char → Bool
  | [] => false
  | c :: cs => wordHere word before (c :: cs) || hasWordFrom word (some c) cs

def hasLimit (cs : List Char) : Bool :=
  hasWordFrom limitWord none cs

/-- The text without trailing blanks and without one closing semicolon. -/
def statementBody (cs : List Char) : List Char :=
  let trimmed := trimEndBlanks cs
  if trimmed.getLast? = some ';' then trimEndBlanks trimmed.dropLast else trimmed

/-- The characters after the last line feed. -/
def lastLine (cs : List Char) : List Char :=
  (cs.reverse.takeWhile (· ≠ '\n')).reverse

def hasDashes : List Char → Bool
  | '-' :: '-' :: _ => true
  | _ :: rest => hasDashes rest
  | [] => false

/-- Ends a statement with a semicolon, after a `LIMIT` if it has none and the cap is positive. -/
def applyRowCap (sql : String) (cap : Int) : String :=
  if cap ≤ 0 then sql
  else
    let body := statementBody sql.toList
    let commented := hasDashes (lastLine body)
    let tail :=
      if hasLimit body then if commented then "\n;" else ";"
      else (if commented then "\n" else " ") ++ "LIMIT " ++ intText cap ++ ";"
    String.ofList (body ++ tail.toList)

/-- The text that is sent for an accepted statement. -/
def adaptStatement (sql catalog : String) (cap : Int) : String :=
  applyRowCap (if catalog.isEmpty then sql else injectCatalog catalog sql) cap

end QueryGate
