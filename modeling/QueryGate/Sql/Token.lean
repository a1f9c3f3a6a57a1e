/-! Tokens of SQL text. A keyword keeps the text it was written with beside the name it goes by, since
most keywords may also be names. -/

namespace QueryGate

inductive TokenKind
  /-- A bare word that is no keyword. -/
  | word
  | keyword
  /-- A name in backticks. -/
  | quoted
  | text
  /-- A string with a mark in front, read as it stands. -/
  | marked
  | number
  | symbol
  | hint
deriving DecidableEq, Repr

structure Token where
  kind : TokenKind
  text : String
  /-- What a keyword, symbol or mark is called. -/
  name : String
  /-- Whether a comment belongs to the token. -/
  noted : Bool
deriving DecidableEq, Repr

/-- Why a text is not SQL. -/
inductive SyntaxError
  | unterminated (delimiter : String)
  | expected (what : String)
  | unexpected (text : String)
  | repeatedClause (name : String)
  | tooDeep
deriving DecidableEq, Repr

def SyntaxError.message : SyntaxError → String
  | .unterminated delimiter => "missing " ++ delimiter
  | .expected what => "expected " ++ what
  | .unexpected text => "unexpected " ++ text
  | .repeatedClause name => "found multiple " ++ name ++ " clauses"
  | .tooDeep => "nested too deeply"

end QueryGate
