import QueryGate.Sql.Grammar.Basic
import QueryGate.Sql.Token.Keyword
/-! Names, placeholders and the aliases given to expressions. -/

namespace QueryGate

open Reading

def isNameToken (t : Token) : Bool :=
  t.kind = .word || (t.kind = .keyword && nameKeywords.contains t.name)

/-- A bare alias of a table must not be read where a join may start. -/
def isTableAliasToken (t : Token) : Bool :=
  isNameToken t && !(t.kind = .keyword && joinKeywords.contains t.name)

/-- Tokens that are no name even after `AS` or a point. -/
def isReservedToken (t : Token) : Bool :=
  (t.kind = .symbol && (t.text.length = 1 || t.name = "="))
    || (t.kind = .keyword && (t.name = "SELECT" || t.name = "NOT"))

def isPlaceholderName (t : Token) : Bool :=
  isNameToken t || t.kind = .number

def identifierOf (t : Token) : Tree :=
  .node (.identifier (t.kind = .quoted || t.kind = .text)) t.text []

/-- A question mark, a name after a colon, or a name after an at sign. -/
def placeholder : Reading (Option Tree) := do
  if ← symbol "?" then return some (.node .placeholder "" [])
  else if (← take (fun a b => isSymbol ":" a && b.any isPlaceholderName)).isSome then
    return (← matchToken? isPlaceholderName).map (fun t => .node .placeholder t.text [])
  else if ← symbol "@" then
    let braced ← symbol "\x7b"
    match ← matchToken? (fun t => t.kind ∈ [.word, .quoted, .text, .number]) with
    | some t =>
      if braced then needSymbol "\x7d"
      return some (.node .parameter t.text [])
    | none => refuseHere "a parameter"
  else return none

def quotedName : Reading (Option Tree) := do
  match ← matchToken? (fun t => t.kind = .quoted) with
  | some t => return some (identifierOf t)
  | none => placeholder

/-- A name: any token that is not reserved, or one that satisfies the test. -/
def nameWhere (any : Bool) (p : Token → Bool) : Reading (Option Tree) := do
  match ← quotedName with
  | some t => return some t
  | none =>
    let found ← matchToken? (fun t => (any && !isReservedToken t) || p t)
    return found.map identifierOf

/-- A name given to something. A bare `LIMIT` starts a clause and is none. -/
def givenName (marked : Bool) (p : Token → Bool) : Reading (Option Tree) :=
  nameWhere marked (fun t => p t && !isKeyword "LIMIT" t)

def name : Reading (Option Tree) :=
  nameWhere false isNameToken

def anyName : Reading (Option Tree) :=
  nameWhere true isNameToken

def textName : Reading (Option Tree) := do
  return (← matchToken? (fun t => t.kind = .text)).map identifierOf

/-- Any token that is not reserved, as a word. -/
def anyWord : Reading (Option Tree) := do
  return (← matchToken? (fun t => !isReservedToken t)).map identifierOf

def textLiteral : Reading (Option Tree) := do
  return (← matchToken? (fun t => t.kind = .text)).map (fun t => .node .string t.text [])

def numberLiteral : Reading (Option Tree) := do
  return (← matchToken? (fun t => t.kind = .number)).map (fun t => .node .number t.text [])

/-- The alias of a table, with or without `AS`, and names for its columns. -/
def tableAlias (p : Token → Bool) : Reading (Option Tree) := do
  let marked ← keyword "AS"
  let given ← firstOf [givenName marked p, textName]
  let start ← here
  let columns ← if ← symbol "(" then do
      let names ← commaItems anyName
      if names.isEmpty then
        back start
        pure []
      else
        needSymbol ")"
        pure [Tree.node (.clause .columnList) "" names]
    else pure []
  if given.isNone && columns.isEmpty then return none
  else return some (.node (.clause .tableAlias) "" (given.toList ++ columns))

/-- Whether a table is meant not to exist or to exist. -/
def existence : Reading Bool := do
  if ← phrase ["IF", "NOT", "EXISTS"] then return true else phrase ["IF", "EXISTS"]

end QueryGate
