import QueryGate.Sql.Grammar.Operator
/-! What a query reads from: tables and functions, values, subqueries, joins, and the samples, versions
and pivots of a table. -/

namespace QueryGate

open Reading

namespace Grammar

/-- The alias of something read from. -/
def sourceAlias : Reading (Option Tree) := do
  if ← offsetAhead then return none else tableAlias isTableAliasToken

/-- One row of values, in parentheses or alone. -/
def valueRow : Reading (Option Tree) := do
  if ← symbol "(" then
    let items ← commaItems readExpression
    needSymbol ")"
    return some (.node .tuple "" items)
  else
    match ← readExpression with
    | some t => return some (.node .tuple "" [t])
    | none => return none

/-- `VALUES` with its rows and an alias, in parentheses or not. -/
def values : Reading (Option Tree) := do
  let wrappedHere ← pair "(" "VALUES"
  if !(← either (return wrappedHere) (phrase ["VALUES"])) then return none
  else
    let rows ← someItems "values" (commaItems valueRow)
    let inside ← sourceAlias
    if wrappedHere then needSymbol ")"
    let given ← match inside with
      | some a => pure (some a)
      | none => sourceAlias
    return some (.node .values "" (rows ++ given.toList))

def unnest : Reading (Option Tree) := do
  if ← pair "UNNEST" "(" then
    let items ← commaItems readEquality
    needSymbol ")"
    let _ ← pair "WITH" "ORDINALITY"
    let given ← sourceAlias
    return some (.node (.op "UNNEST") "" (items ++ given.toList))
  else return none

/-- One part of a table's name: a function, a name, a string or a placeholder. -/
def tablePart (schema : Bool) : Reading (Option Tree) :=
  firstOf [if schema then return none else callWith false false true call, name, textName]

/-- A table by its name in one or more parts; a part may be missing between two points. -/
def tableParts (schema : Bool) : Reading Tree := do
  let first ← tablePart schema
  let (parts, isOpen) ← loop (fun (parts, _) => do
    if ← symbol "." then
      match ← tablePart schema with
      | some t => return some (parts ++ [t], false)
      | none => return some (parts, true)
    else return none) (first.toList, first.isNone)
  if isOpen then refuseHere "a table" else return .node .table "" parts

/-- One test of a pivot: a column and the values that become columns. -/
def pivotColumn : Reading (Option Tree) := do
  let column ← need "a column" readColumn
  if ← keyword "IN" then
    if ← symbol "(" then
      let items ← if ← keyword "ANY" then do pure (← order).toList
        else commaItems (do
          let this ← queryOrExpression false
          let _ ← keyword "AS"
          let given ← readBitwise
          match this, given with
          | some t, some a => return some (.node .aliased "" [t, a])
          | _, _ => return this)
      needSymbol ")"
      return some (.node (.op "IN") "" (column :: items))
    else
      let other ← anyName
      return some (.node (.op "IN") "" (column :: other.toList))
  else refuseHere "IN"

def pivot : Reading (Option Tree) := do
  let start ← here
  let turned ← keyword "UNPIVOT"
  if !(← either (return turned) (keyword "PIVOT")) then return none
  else
    if turned then
      let _ ← phrase ["INCLUDE", "NULLS"]
      let _ ← phrase ["EXCLUDE", "NULLS"]
    if ← symbol "(" then
      let items ← someItems "an aggregation" (commaItems
        (if turned then readColumn else do withAlias false (← call)))
      if ← keyword "FOR" then
        let columns ← many (attempt pivotColumn)
        needSymbol ")"
        let given ← if ← sees (isOneOf ["PIVOT", "UNPIVOT"]) then pure none else sourceAlias
        return some (.node (.clause .pivot) "" (items ++ columns ++ given.toList))
      else refuseHere "FOR"
    else
      back start
      return none

def version : Reading (Option Tree) := do
  if ← accepts (isOneOf ["VERSION AS OF", "TIMESTAMP AS OF"]) then
    let _ ← phrase ["AS", "OF"]
    let this ← readOperand
    return some (.node (.clause .version) "" this.toList)
  else return none

/-- A sample of the rows: a share, a count or a bucket. -/
def sample : Reading (Option Tree) := do
  if ← keyword "TABLESAMPLE" then
    let _ ← matchToken? (fun t => t.kind = .word || isKeyword "ROW" t)
    let wrappedHere ← symbol "("
    let size ← if ← sees (fun t => t.kind = .number) then readFactor
      else firstOf [readPrimary, placeholder]
    if ← phrase ["BUCKET"] then
      let _ ← numberLiteral
      let _ ← phrase ["OUT", "OF"]
      let _ ← numberLiteral
      if ← keyword "ON" then
        let _ ← field false
    else
      let _ ← accepts (fun t => isKeyword "PERCENT" t || isKeyword "ROWS" t || isSymbol "%" t)
    if wrappedHere then needSymbol ")"
    if (← oneWritten? ["SEED", "REPEATABLE"]).isSome then
      let _ ← wrapped numberLiteral
    return some (.node (.clause .sample) "" size.toList)
  else return none

/-- A lateral view of a function, or a lateral subquery. -/
def lateral : Reading (Option Tree) := do
  if ← keyword "LATERAL" then
    let query ← query ⟨false, true, true, true⟩
    let view ← keyword "VIEW"
    let _ ← keyword "OUTER"
    let this ← match query with
      | some q => pure (some q)
      | none => firstOf [unnest, call, name]
    if view then
      let given ← name
      let columns ← if ← keyword "AS" then commaItems anyName else pure []
      return some (.node (.clause .lateral) "" (this.toList ++ given.toList ++ columns))
    else
      let given ← sourceAlias
      match this with
      | some t => return some (.node (.clause .lateral) "" (t :: given.toList))
      | none => refuseHere "a function"
  else return none

/-- The words in front of `JOIN`: a method, a side and a kind. -/
def joinWords : Reading String := do
  let method ← matchToken? (isOneOf ["ASOF", "NATURAL"])
  let side ← matchToken? (isOneOf ["LEFT", "RIGHT", "FULL"])
  let kind ← matchToken? (isOneOf ["ANTI", "CROSS", "INNER", "OUTER", "SEMI", "STRAIGHT_JOIN"])
  return " ".intercalate ((method.toList ++ side.toList ++ kind.toList).map (·.name))

/-- The condition of a join: `ON` with a test, or `USING` with columns. -/
def joinCondition : Reading (Option Tree) := do
  if ← keyword "ON" then
    return some (.node (.clause .joinOn) "" (← readDisjunction).toList)
  else if ← keyword "USING" then
    let names ← if ← symbol "(" then do
        let found ← commaItems readColumn
        needSymbol ")"
        pure found
      else commaItems readColumn
    return some (.node (.clause .joinUsing) "" names)
  else return none

/-- A join with what follows its keyword. Joins nested inside take the first condition. -/
def join : Reading (Option Tree) := do
  if ← symbol "," then
    match ← attempt (table false) with
    | some t => return some (.node (.clause .join) "," [t])
    | none => return none
  else
    let start ← here
    let words ← joinWords
    let joined ← keyword "JOIN"
    if !joined && words ≠ "STRAIGHT_JOIN" then
      back start
      return none
    else
      let this ← need "a table" (table false)
      match ← joinCondition with
      | some c => return some (.node (.clause .join) words [this, c])
      | none =>
        let before ← here
        let nested ← if words = "CROSS" then pure [] else joins
        let condition ← if nested.isEmpty then pure none else joinCondition
        match condition with
        | some c => return some (.node (.clause .join) words (this :: nested ++ [c]))
        | none =>
          back before
          return some (.node (.clause .join) words [this])

/-- A table to read from or to write to; the latter has columns in place of an alias. -/
def readTable (schema : Bool) : Reading (Option Tree) := do
  match ← firstOf [lateral, unnest, values, query ⟨false, true, true, true⟩] with
  | some t =>
    let pivots ← many pivot
    return some (pivots.foldl Tree.append t)
  | none =>
    let _ ← phrase ["ONLY"]
    let named ← tableParts schema
    let pivots ← many pivot
    let this ← brackets (some (pivots.foldl Tree.append named))
    let this := this.getD named
    let _ ← symbol "*"
    if schema then
      if ← keyword "PARTITION" then
        let _ ← wrapped (commaItems readAssignment)
      let columns ← if ← symbol "(" then do
          let items ← commaItems structField
          needSymbol ")"
          pure [Tree.node (.clause .columnList) "" items]
        else pure []
      return some (columns.foldl Tree.append this)
    else
      let version ← version
      let sample ← sample
      let given ← sourceAlias
      let late ← many pivot
      return some ((version.toList ++ sample.toList ++ given.toList ++ late).foldl Tree.append this)

end Grammar

end QueryGate
