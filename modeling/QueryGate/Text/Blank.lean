import QueryGate.Text.Ranges
/-! Blank characters, the trimming of a text at either end, and its split into words. A message is
made safe for one line by joining its words with single spaces. -/

namespace QueryGate

/-- Spaces, line and paragraph ends, and the four information separators. -/
def blankRanges : Ranges := [
  (0x09, 0x0d), (0x1c, 0x20), (0x85, 0x85), (0xa0, 0xa0), (0x1680, 0x1680), (0x2000, 0x200a),
  (0x2028, 0x2029), (0x202f, 0x202f), (0x205f, 0x205f), (0x3000, 0x3000)]

def isBlank (c : Char) : Bool :=
  blankRanges.has c

/-- A text without the leading characters that satisfy the test. -/
def trimStartOf (p : Char → Bool) (cs : List Char) : List Char :=
  cs.dropWhile p

def trimEndOf (p : Char → Bool) (cs : List Char) : List Char :=
  (cs.reverse.dropWhile p).reverse

def trimOf (p : Char → Bool) (cs : List Char) : List Char :=
  trimEndOf p (trimStartOf p cs)

def trimEndBlanks (cs : List Char) : List Char :=
  trimEndOf isBlank cs

def trimBlanks (cs : List Char) : List Char :=
  trimOf isBlank cs

def trimText (s : String) : String :=
  String.ofList (trimBlanks s.toList)

def isBlankText (s : String) : Bool :=
  s.toList.all isBlank

/-- The words of a text, the word under way being held in reverse. -/
def wordsFrom (word : List Char) : List Char → List (List Char)
  | [] => if word.isEmpty then [] else [word.reverse]
  | c :: rest =>
    if isBlank c then
      if word.isEmpty then wordsFrom [] rest else word.reverse :: wordsFrom [] rest
    else wordsFrom (c :: word) rest

def words (s : String) : List String :=
  (wordsFrom [] s.toList).map String.ofList

/-- The words of a text with one space between them. -/
def singleSpaced (s : String) : String :=
  " ".intercalate (words s)

end QueryGate
