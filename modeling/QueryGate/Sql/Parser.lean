import QueryGate.Sql.Grammar.Command
import QueryGate.Sql.Token.Lexer
/-! Reading SQL text into syntax trees, one for each statement. -/

namespace QueryGate

open Grammar

/-- The reader of each construct. -/
def Construct.reader : {α : Type} → Construct α → Reading α
  | _, .statement => readStatement
  | _, .action t => readAction t
  | _, .described => readStatement
  | _, .called => call
  | _, .query place => readQuery place
  | _, .ctes => readCtes
  | _, .source => readSource
  | _, .head leading => readHead leading
  | _, .parenthesised orTable => readParenthesised orTable
  | _, .wrapped place => readWrapped place
  | _, .otherQuery => readOtherQuery
  | _, .inserts leading => readInserts leading
  | _, .laterals => readLaterals
  | _, .clause => readClause
  | _, .modifiers this => readModifiers this
  | _, .operation => readOperation
  | _, .combinations this => readCombinations this
  | _, .subquery this aliased => readSubquery this aliased
  | _, .table schema => readTable schema
  | _, .joins => Reading.many join
  | _, .expression => readExpression
  | _, .assignment => readAssignment
  | _, .disjunction => readDisjunction
  | _, .equality => readEquality
  | _, .bitwise => readBitwise
  | _, .term => readTerm
  | _, .unary => readUnary
  | _, .operand => readOperand
  | _, .column => readColumn
  | _, .primary => readPrimary
  | _, .interval marked => readInterval marked
  | _, .type call allowNames => readType call allowNames

/-- Reads a construct of some tokens, with constructs inside one another at most so deep. -/
def Construct.read (tokens : Array Token) : Nat → {α : Type} → Construct α → Nat → Outcome α
  | 0, _, _, _ => .error .tooDeep
  | depth + 1, _, c, i => c.reader.run tokens (Construct.read tokens depth) i

/-- The tokens of each statement. A semicolon that a comment belongs to is a statement of its own;
elsewhere comments do not count. -/
def splitStatements : List Token → List (List Token)
  | [] => [[]]
  | t :: rest =>
    let following := splitStatements rest
    if t.kind = .symbol && t.name = ";" then
      if t.noted then [] :: [t] :: following else [] :: following
    else
      match following with
      | first :: others => ({ t with noted := false } :: first) :: others
      | [] => [[{ t with noted := false }]]

/-- Only so many constructs stand inside one another before one of them takes a token. -/
def depthFor (tokens : List Token) : Nat :=
  8 * tokens.length + 16

/-- Reads all tokens of one statement. -/
def parseStatement (tokens : List Token) : Except SyntaxError (Option Tree) :=
  if tokens.isEmpty then .ok none
  else
    match Construct.read tokens.toArray (depthFor tokens) .statement 0 with
    | .error e => .error e
    | .ok (this, i) =>
      match tokens[i]? with
      | none => .ok this
      | some t => .error (.unexpected t.text)

/-- The statements of a text in order, empty ones left out. -/
def parseSql (sql : String) : Except SyntaxError (List Tree) := do
  let tokens ← tokenize sql
  let found ← (splitStatements tokens).mapM parseStatement
  return found.filterMap id

end QueryGate
