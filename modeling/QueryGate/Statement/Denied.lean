import QueryGate.Text.CaseMap
/-! The list of words that a statement must not contain anywhere, in whatever case. -/

namespace QueryGate

def defaultDenied : List String :=
  ["DROP", "DELETE", "UPDATE", "INSERT", "ALTER", "TRUNCATE", "MERGE", "CREATE", "GRANT", "REVOKE"]

/-- Lower-case letters that share their upper case with another, each beside the one that stands for
both: the dotless i, the long s, and the variant forms of other scripts. -/
def letterVariants : List (Char × Char) := [
  ('\u0131', '\u0069'), ('\u017f', '\u0073'), ('\u03b9', '\u0345'), ('\u03bc', '\u00b5'),
  ('\u03c3', '\u03c2'), ('\u03d0', '\u03b2'), ('\u03d1', '\u03b8'), ('\u03d5', '\u03c6'),
  ('\u03d6', '\u03c0'), ('\u03f0', '\u03ba'), ('\u03f1', '\u03c1'), ('\u03f5', '\u03b5'),
  ('\u1c80', '\u0432'), ('\u1c81', '\u0434'), ('\u1c82', '\u043e'), ('\u1c83', '\u0441'),
  ('\u1c84', '\u0442'), ('\u1c85', '\u0442'), ('\u1c86', '\u044a'), ('\u1c87', '\u0463'),
  ('\u1e9b', '\u1e61'), ('\u1fbe', '\u0345'), ('\u1fd3', '\u0390'), ('\u1fe3', '\u03b0'),
  ('\ua64b', '\u1c88'), ('\ufb06', '\ufb05')]

/-- A letter with its case and its variant form left out. The dotted capital I counts as an i. -/
def foldChar (c : Char) : Char :=
  if c.toNat < 0x80 then c.toLower
  else if c = '\u0130' then 'i'
  else
    let lower := Char.ofNat (CaseRow.apply lowerRows c.toNat)
    (letterVariants.lookup lower).getD lower

/-- Whether two characters differ at most in case. -/
def sameLetter (a b : Char) : Bool :=
  a = b || foldChar a = foldChar b

/-- The characters left after a word at the start of a text, in whatever case. -/
def afterLetters? : List Char → List Char → Option (List Char)
  | [], cs => some cs
  | _ :: _, [] => none
  | w :: ws, c :: cs => if sameLetter w c then afterLetters? ws cs else none

/-- The part of the text that the first fitting keyword covers here. -/
def deniedHere? (keywords : List (List Char)) (cs : List Char) : Option (List Char) :=
  (keywords.find? (fun k => (afterLetters? k cs).isSome)).map (fun k => cs.take k.length)

/-- The leftmost part of the text that a keyword covers. -/
def deniedPart? (keywords : List (List Char)) : List Char → Option (List Char)
  | [] => deniedHere? keywords []
  | c :: cs =>
    match deniedHere? keywords (c :: cs) with
    | some found => some found
    | none => deniedPart? keywords cs

/-- The first denied word of a statement in upper case. Keywords are put in upper case first. -/
def findDenied (denied : List String) (sql : String) : Option String :=
  let keywords := denied.map (fun k => upperChars k.toList)
  (deniedPart? keywords sql.toList).map (fun found => String.ofList (upperChars found))

end QueryGate
