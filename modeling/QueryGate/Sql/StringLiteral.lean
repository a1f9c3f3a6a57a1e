import QueryGate.Number.FloatText
/-! Values as literals of SQL text. -/

namespace QueryGate

/-- A character inside single quotes. -/
def literalCharOf (c : Char) : List Char :=
  if c = '\'' then ['\\', '\'']
  else if c = '\\' then ['\\', '\\']
  else if c = '\n' then ['\\', 'n']
  else if c = '\t' then ['\\', 't']
  else if c = '\r' then ['\\', 'r']
  else if c = '\x08' then ['\\', 'b']
  else if c = '\x07' then ['\\', '0', '0', '7']
  else if c = '\x0b' then ['\\', '0', '1', '3']
  else if c = '\x0c' then ['\\', '0', '1', '4']
  else if c = '\x00' then ['\\', '0']
  else [c]

def stringLiteral (s : String) : List Char :=
  '\'' :: (s.toList.flatMap literalCharOf ++ ['\''])

end QueryGate
