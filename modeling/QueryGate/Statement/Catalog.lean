import QueryGate.Statement.Denied
/-! Putting a catalog in front of the first thing a statement reads from. The rule looks at the text
alone: the five characters `FROM` and a space count wherever they first stand. -/

namespace QueryGate

/-- Splits a text after the first occurrence of a word, in whatever case. -/
def splitAfterLetters? (word : List Char) : List Char → Option (List Char × List Char)
  | [] => if word.isEmpty then some ([], []) else none
  | c :: cs =>
    match afterLetters? word (c :: cs) with
    | some rest => some ((c :: cs).take word.length, rest)
    | none => (splitAfterLetters? word cs).map (fun (before, rest) => (c :: before, rest))

def fromWord : List Char := "FROM ".toList

/-- A statement with `catalog.` after its first `FROM`, or as it was if it has none. -/
def injectCatalog (catalog sql : String) : String :=
  match splitAfterLetters? fromWord sql.toList with
  | some (before, rest) => String.ofList (before ++ catalog.toList ++ '.' :: rest)
  | none => sql

end QueryGate
