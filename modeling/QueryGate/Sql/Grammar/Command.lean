import QueryGate.Sql.Grammar.Query
/-! Statements that are no queries. They are read only as far as it takes to tell what they are; text
that their grammar does not cover makes a plain command of them where the dialect allows it. -/

namespace QueryGate

open Reading

namespace Grammar

def skipRest : Reading Unit :=
  loop (fun _ => do return (← matchToken? (fun _ => true)).map (fun _ => ())) ()

/-- What a statement does, and its parts. -/
abbrev Deed := Action × List Tree

def act (a : Action) (parts : List Tree) : Reading (Option Deed) :=
  return some (a, parts)

/-- The whole rest as a command. -/
def plainCommand : Reading (Option Deed) := do
  skipRest
  act .command []

/-- The action, unless text is left over. -/
def actOrCommand (a : Action) (parts : List Tree) : Reading (Option Deed) := do
  if ← atEnd then act a parts else plainCommand

def tableOf (schema : Bool) : Reading Tree :=
  need "a table" (readTable schema)

def objectKind : Reading (Option Token) :=
  matchToken? (isOneOf objectKeywords)

def partition : Reading (List Tree) := do
  if ← keyword "PARTITION" then wrapped (commaItems readAssignment) else return []

def use : Reading (Option Deed) := do
  let start ← here
  let named ← oneWritten? ["ROLE", "WAREHOUSE", "DATABASE", "SCHEMA", "CATALOG"]
  if named.isSome && (← atEnd) then back start
  act .use [← tableOf false]

def describe : Reading (Option Deed) := do
  let _ ← objectKind
  let start ← here
  let style ← oneWritten? ["ANALYZE", "EXTENDED", "FORMATTED", "HISTORY"]
  if style.isSome && (← seesSymbol ".") then back start
  let inner ← if ← sees (isOneOf ["INSERT", "UPDATE", "DELETE", "CREATE", "DROP", "ALTER", "MERGE",
      "USE", "SET", "CACHE", "TRUNCATE", "DESCRIBE", "DESC"]) then need "a statement" statement
    else tableOf true
  let partition ← partition
  let _ ← phrase ["AS", "JSON"]
  act .describe (inner :: partition)

def setItem : Reading (Option Tree) := do
  let start ← here
  match ← firstOf [readPrimary, readColumn] with
  | none =>
    back start
    return none
  | some left =>
    if (← oneWritten? ["=", ":=", "TO"]).isSome then
      let right ← firstOf [statement, anyName]
      match right with
      | some r => return some (.node (.op "EQ") "" [left, r])
      | none => refuseWith (.expected "a value")
    else
      back start
      return none

def setItems : Reading (Option Deed) := do
  let items ← attempt (do return some (← commaItems setItem))
  actOrCommand .set (items.getD [])

def cache : Reading (Option Deed) := do
  let _ ← phrase ["LAZY"]
  let _ ← keyword "TABLE"
  let this ← tableOf true
  if ← phrase ["OPTIONS"] then
    needSymbol "("
    let _ ← textLiteral
    let _ ← symbol "="
    let _ ← textLiteral
    needSymbol ")"
  let _ ← keyword "AS"
  let query ← query ⟨true, false, true, true⟩
  act .cache (this :: query.toList)

def uncache : Reading (Option Deed) := do
  if ← keyword "TABLE" then
    let _ ← existence
    act .uncache [← tableOf true]
  else refuseHere "TABLE"

def refresh : Reading (Option Deed) := do
  let _ ← keyword "TABLE"
  match ← textLiteral with
  | some t => act .refresh [t]
  | none => act .refresh [← tableOf false]

def kill : Reading (Option Deed) := do
  let _ ← oneWritten? ["CONNECTION", "QUERY"]
  act .kill [← need "a number" readPrimary]

def loadData : Reading (Option Deed) := do
  if ← phrase ["DATA"] then
    let _ ← phrase ["LOCAL"]
    let _ ← phrase ["INPATH"]
    let path ← textLiteral
    let _ ← keyword "OVERWRITE"
    let _ ← pair "INTO" "TABLE"
    let this ← tableOf true
    let partition ← partition
    act .loadData (this :: path.toList ++ partition)
  else plainCommand

/-- What an analysis computes. -/
def statisticsWords : Reading Unit := do
  if (← oneWritten? ["COMPUTE", "DELETE", "ESTIMATE"]).isSome then
    let _ ← phrase ["STATISTICS"]
    if !(← phrase ["NOSCAN"]) then
      if ← phrase ["FOR", "ALL", "COLUMNS"] then return ()
      else if ← phrase ["FOR", "COLUMNS"] then
        let _ ← commaItems readColumn
    return ()

def analyze : Reading (Option Deed) := do
  if ← atEnd then act .analyze []
  else if ← phrase ["TABLES"] then
    let _ ← accepts (isOneOf ["FROM", "IN"])
    let this ← tableOf true
    statisticsWords
    act .analyze [this]
  else
    let _ ← accepts (isOneOf ["TABLE", "INDEX"])
    let this ← tableParts false
    let partition ← partition
    statisticsWords
    act .analyze (this :: partition)

def copyInto : Reading (Option Deed) := do
  let _ ← keyword "INTO"
  let this ← if ← seesSymbol "(" then need "a query" (query ⟨true, false, false, true⟩)
    else tableOf true
  if !(← keyword "FROM") then
    let _ ← phrase ["TO"]
  let files ← commaItems (firstOf [readPrimary, readTable false])
  skipRest
  act .copy (this :: files)

def commentOn : Reading (Option Deed) := do
  let _ ← existence
  let _ ← keyword "ON"
  match ← objectKind with
  | none => plainCommand
  | some kind =>
    let this ← if kind.name = "COLUMN" then need "a column" readColumn
      else tableParts true
    let _ ← keyword "IS"
    let text ← need "a comment" textLiteral
    act .comment [this, text]

def transactionWords : Reading Unit := do
  let _ ← oneWritten? ["DEFERRED", "IMMEDIATE", "EXCLUSIVE"]
  let _ ← oneWritten? ["TRANSACTION", "WORK"]
  let _ ← commaItems (do
    let found ← many (do
      return (← matchToken? (fun t => t.kind = .word || isKeyword "NOT" t)).map identifierOf)
    return found.head?)

def endTransaction (a : Action) : Reading (Option Deed) := do
  let _ ← oneWritten? ["TRANSACTION", "WORK"]
  if ← phrase ["TO"] then
    let _ ← phrase ["SAVEPOINT"]
    let _ ← name
  if ← phrase ["AND"] then
    let _ ← phrase ["NO"]
    let _ ← phrase ["CHAIN"]
  act a []

def insert : Reading (Option Deed) := do
  let _ ← matchToken? (fun t => t.kind = .hint)
  let _ ← keyword "OVERWRITE"
  let _ ← phrase ["LOCAL"]
  if ← phrase ["DIRECTORY"] then
    let _ ← firstOf [textLiteral, name]
    let query ← firstOf [values, query ⟨true, false, true, true⟩]
    act .insert query.toList
  else
    let _ ← keyword "INTO"
    let _ ← keyword "TABLE"
    let this ← tableOf true
    let partition ← partition
    let _ ← phrase ["BY", "NAME"]
    let _ ← existence
    if ← pair "REPLACE" "WHERE" then
      let _ ← need "a condition" readDisjunction
    let _ ← phrase ["DEFAULT", "VALUES"]
    let rows ← firstOf [values, query ⟨true, false, true, true⟩]
    let rows ← match rows with
      | some r => if r.kind.isQuery then do pure [← readModifiers r] else pure [r]
      | none => pure []
    act .insert (this :: partition ++ rows)

def deleteFrom : Reading (Option Deed) := do
  let tables ← if ← seesKeyword "FROM" then pure [] else commaItems (readTable false)
  let target ← if ← keyword "FROM" then do pure [← tableOf false] else pure []
  let joins ← joins
  let using_ ← if ← keyword "USING" then commaItems (readTable false) else pure []
  let condition ← if ← keyword "WHERE" then conditionClause .filter else pure []
  let order ← order
  let limit ← limit
  act .delete (tables ++ target ++ joins ++ using_ ++ condition ++ order.toList ++ limit.toList)

def update : Reading (Option Deed) := do
  let this ← tableParts false
  let given ← tableAlias (fun t => isTableAliasToken t && !isKeyword "SET" t)
  let joins ← joins
  let items ← if ← keyword "SET" then commaItems readEquality else pure []
  let source ← source
  let condition ← if ← keyword "WHERE" then conditionClause .filter else pure []
  let order ← order
  let limit ← limit
  act .update (this :: given.toList ++ joins ++ items ++ source.toList ++ condition ++ order.toList ++ limit.toList)

/-- One branch of a merge. -/
def mergeBranch : Reading (Option Tree) := do
  if ← keyword "WHEN" then
    let _ ← keyword "NOT"
    let _ ← phrase ["MATCHED"]
    if ← phrase ["BY"] then
      let _ ← oneWritten? ["SOURCE", "TARGET"]
    if ← keyword "AND" then
      let _ ← readDisjunction
    let _ ← keyword "THEN"
    if ← keyword "INSERT" then
      if !(← symbol "*") then
        let _ ← valueRow
        if ← keyword "VALUES" then
          let _ ← valueRow
      return some (.node (.action .insert) "" [])
    else if ← keyword "UPDATE" then
      let _ ← keyword "SET"
      if !(← symbol "*") then
        let _ ← commaItems readEquality
      return some (.node (.action .update) "" [])
    else if ← keyword "DELETE" then return some (.node (.action .delete) "" [])
    else refuseHere "an action"
  else return none

def merge : Reading (Option Deed) := do
  let _ ← keyword "INTO"
  let target ← tableOf false
  let _ ← keyword "USING"
  let other ← tableOf false
  let _ ← keyword "ON"
  let condition ← need "a condition" readDisjunction
  let branches ← someItems "WHEN" (many mergeBranch)
  act .merge (target :: other :: condition :: branches)

/-- Goes up to an unmatched closing parenthesis, which ends a statement inside another. -/
def skipStatement : Reading Unit := do
  let _ ← loop (fun depth => do
    match ← matchToken? (fun t => !isSymbol ")" t || depth ≠ 0) with
    | some t =>
      return some (if isSymbol "(" t then depth + 1 else if isSymbol ")" t then depth - 1 else depth)
    | none => return none) (0 : Nat)

def create : Reading (Option Deed) := do
  let _ ← pair "OR" "REPLACE"
  let _ ← many (do
    return (← oneWritten? ["OR", "REPLACE", "REFRESH", "EXTERNAL", "GLOBAL", "LOCAL", "MATERIALIZED",
      "STREAMING", "TEMP", "TEMPORARY", "TRANSIENT", "UNIQUE"]).map identifierOf)
  match ← objectKind with
  | none => plainCommand
  | some _ =>
    let _ ← existence
    let this ← tableParts true
    skipStatement
    act .create [this]

def drop : Reading (Option Deed) := do
  let _ ← keyword "TEMPORARY"
  let _ ← phrase ["MATERIALIZED"]
  match ← objectKind with
  | none => plainCommand
  | some _ =>
    let _ ← existence
    let this ← tableParts true
    if ← symbol "(" then
      let _ ← commaItems (type false true)
      needSymbol ")"
    let _ ← oneWritten? ["CASCADE", "RESTRICT"]
    let _ ← phrase ["CONSTRAINTS"]
    let _ ← phrase ["PURGE"]
    act .drop [this]

def alter : Reading (Option Deed) := do
  if ← accepts (isOneOf ["TABLE", "VIEW"]) then
    let _ ← existence
    let this ← tableParts true
    if (← oneWritten? ["ADD", "AS", "ALTER", "CLUSTER", "DELETE", "DROP", "RENAME", "SET", "SWAP",
        "UNSET"]).isSome && !(← atEnd) then
      skipStatement
      act .alter [this]
    else plainCommand
  else plainCommand

def truncate : Reading (Option Deed) := do
  let _ ← keyword "DATABASE"
  let _ ← keyword "TABLE"
  let _ ← phrase ["IF", "EXISTS"]
  let tables ← commaItems (readTable true)
  let partition ← partition
  let _ ← oneWritten? ["CASCADE", "RESTRICT"]
  if (← atEnd) || (← seesSymbol ")") then act .truncate (tables ++ partition) else plainCommand

/-- A grant to someone or a revocation from someone. -/
def permission (a : Action) (word : String) : Reading (Option Deed) := do
  if ← phrase ["GRANT", "OPTION"] then
    let _ ← phrase ["FOR"]
  let _ ← commaItems (do
    let words ← many (do
      return (← matchToken? (fun t => !isSymbol "," t && !isSymbol "(" t && !isKeyword "ON" t)).map
        identifierOf)
    if ← symbol "(" then
      let _ ← commaItems readColumn
      needSymbol ")"
    return words.head?)
  let _ ← keyword "ON"
  let _ ← objectKind
  match ← attempt (do return some (← tableParts false)) with
  | none => plainCommand
  | some this =>
    if (← oneWritten? [word]).isSome then
      let _ ← commaItems (do
        let _ ← oneWritten? ["ROLE", "GROUP"]
        name)
      let _ ← phrase ["WITH", "GRANT", "OPTION"]
      actOrCommand a [this]
    else plainCommand

/-- The statement that a keyword starts, the keyword read. -/
def actionAfter? (t : Token) : Option (Reading (Option Deed)) :=
  if t.kind = .symbol && t.name = ";" then some (act .semicolon [])
  else if t.kind ≠ .keyword then none
  else match t.name with
  | "ALTER" => some alter
  | "ANALYZE" => some analyze
  | "BEGIN" => some (do
    transactionWords
    act .transaction [])
  | "CACHE" => some cache
  | "COMMENT" => some commentOn
  | "COMMIT" => some (endTransaction .commit)
  | "COPY" => some copyInto
  | "CREATE" => some create
  | "DELETE" => some deleteFrom
  | "DESC" | "DESCRIBE" => some describe
  | "DROP" => some drop
  | "GRANT" => some (permission .grant "TO")
  | "INSERT" => some insert
  | "KILL" => some kill
  | "LOAD" => some loadData
  | "MERGE" => some merge
  | "PRAGMA" => some (do act .pragma (← readExpression).toList)
  | "REFRESH" => some refresh
  | "REVOKE" => some (permission .revoke "FROM")
  | "ROLLBACK" => some (endTransaction .rollback)
  | "SET" => some setItems
  | "TRUNCATE" => some truncate
  | "UNCACHE" => some uncache
  | "UPDATE" => some update
  | "USE" => some use
  | name =>
    if commandKeywords.contains name then some (do act .command (← textLiteral).toList) else none

def readAction (t : Token) : Reading (Option Deed) :=
  (actionAfter? t).getD (return none)

/-- Whether a keyword starts a statement that is no query. `TRUNCATE` may also be a function. -/
def startsAction (t : Token) (next : Option Token) : Bool :=
  (actionAfter? t).isSome && !(isKeyword "TRUNCATE" t && next.any (isSymbol "("))

/-- A statement that no keyword starts: a call, an expression or a query. -/
def plainStatement : Reading (Option Tree) := do
  if ← sees (isKeyword "TRUNCATE") then inner .called
  else match ← expression with
    | some e => return some (← readCombinations e)
    | none => readQuery ⟨false, false, true, true⟩

/-- Adds what may follow a query to one. -/
def withModifiers : Option Tree → Reading (Option Tree)
  | none => return none
  | some t => do
    if t.kind.isQuery then return some (← readModifiers t) else return some t

def readStatement : Reading (Option Tree) := do
  match ← take startsAction with
  | some t => return (← inner (.action t)).map (fun (a, parts) => .node (.action a) "" parts)
  | none => withModifiers (← plainStatement)

end Grammar

end QueryGate
