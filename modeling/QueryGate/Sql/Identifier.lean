import QueryGate.Text.WordChar
/-! Names in SQL text: bare if they are made of word characters, else between backticks with each inner
backtick doubled. -/

namespace QueryGate

def isNameStart (c : Char) : Bool :=
  c = '_' || ('a' ≤ c && c ≤ 'z') || ('A' ≤ c && c ≤ 'Z')

/-- Word characters, and possibly a line feed after them. -/
def isNameRest : List Char → Bool
  | [] => true
  | ['\n'] => true
  | c :: cs => isWordChar c && isNameRest cs

def isBareName : List Char → Bool
  | [] => false
  | c :: cs => isNameStart c && isNameRest cs

def doubleBackticks : List Char → List Char
  | [] => []
  | c :: cs => if c = '\x60' then '\x60' :: '\x60' :: doubleBackticks cs else c :: doubleBackticks cs

def backtickQuoted (cs : List Char) : List Char :=
  '\x60' :: (doubleBackticks cs ++ ['\x60'])

/-- A name as it stands in SQL text. -/
def nameChars (name : String) : List Char :=
  if isBareName name.toList then name.toList else backtickQuoted name.toList

end QueryGate
