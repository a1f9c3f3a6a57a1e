import QueryGate.Sql.Grammar.Source
/-! Queries: selections with their clauses, set operations, and the names defined by `WITH`. -/

namespace QueryGate

open Reading

namespace Grammar

/-- A rollup or a cube, with its columns unless it came after `WITH`. -/
def groupingWords (bare : Bool) : Reading (Option Tree) := do
  let clause ← if ← keyword "ROLLUP" then pure (some Clause.rollup)
    else if ← keyword "CUBE" then pure (some Clause.cube)
    else pure none
  match clause with
  | none => return none
  | some c =>
    let items ← if bare then pure [] else wrapped (commaItems readBitwise)
    return some (.node (.clause c) "" items)

def groupingSets : Reading (Option Tree) := do
  if ← keyword "GROUPING SETS" then
    let items ← wrapped (commaItems (firstOf [groupingWords false, readBitwise]))
    return some (.node (.clause .groupingSets) "" items)
  else return none

/-- Keywords that start a clause of a query. -/
def clauseStarts : List String :=
  ["WHERE", "GROUP BY", "HAVING", "QUALIFY", "WINDOW", "ORDER BY", "LIMIT", "FETCH", "OFFSET", "FOR",
   "LOCK", "TABLESAMPLE", "USING", "CLUSTER BY", "DISTRIBUTE BY", "SORT BY", "CONNECT BY",
   "START WITH"]

/-- One round of a grouping: expressions, then a rollup, a cube or sets. -/
def groupRound (items : List Tree) : Reading (List Tree × Bool) := do
  let plain ← commaItems (do
    if ← sees (isOneOf ["CUBE", "ROLLUP"]) then return none else readAssignment)
  let before ← here
  let withWord ← keyword "WITH"
  match ← firstOf [groupingWords withWord, groupingSets] with
  | some t => return (items ++ plain ++ [t], true)
  | none =>
    if ← phrase ["TOTALS"] then return (items ++ plain, true)
    else
      back before
      return (items ++ plain, false)

/-- A grouping, its keyword read. It may be empty. -/
def groupItems : Reading Tree := do
  if !(← keyword "ALL") then
    let _ ← keyword "DISTINCT"
  if ← look (fun found => found.all (isOneOf clauseStarts)) then return .node (.clause .group) "" []
  else
    let (items, _) ← loop (fun (items, more) => do
      if more then
        let (items, again) ← groupRound items
        return some (items, again)
      else return none) ([], true)
    return .node (.clause .group) "" items

/-- A named window. -/
def namedWindow : Reading (Option Tree) := do
  match ← anyName with
  | none => return none
  | some this =>
    let _ ← keyword "AS"
    if ← symbol "(" then
      let body ← windowBody
      needSymbol ")"
      return some (.node (.op "WINDOW") "" (this :: body))
    else
      let base ← name
      return some (.node (.op "WINDOW") "" (this :: base.toList))

/-- Row locks after a query. -/
def locks : Reading (List Tree) :=
  many (do
    if ← either (phrase ["FOR", "UPDATE"])
        (either (phrase ["FOR", "SHARE"]) (phrase ["LOCK", "IN", "SHARE", "MODE"])) then
      let tables ← if ← phrase ["OF"] then commaItems (table true) else pure []
      if !(← either (phrase ["NOWAIT"]) (phrase ["SKIP", "LOCKED"])) then
        if ← phrase ["WAIT"] then
          let _ ← readPrimary
      return some (.node (.clause .lock) "" tables)
    else return none)

def conditionClause (clause : Clause) : Reading (List Tree) := do
  return [.node (.clause clause) "" [← need "a condition" readDisjunction]]

/-- The clauses that one keyword starts; none if it starts no clause after all. -/
def clausesHere : Reading (List Tree) := do
  if ← keyword "WHERE" then conditionClause .filter
  else if ← keyword "GROUP BY" then return [← groupItems]
  else if ← keyword "HAVING" then conditionClause .having
  else if ← keyword "QUALIFY" then conditionClause .qualify
  else if ← keyword "WINDOW" then
    return [.node (.clause .windows) "" (← commaItems namedWindow)]
  else if ← keyword "CLUSTER BY" then return [← orderItems .cluster]
  else if ← keyword "DISTRIBUTE BY" then return [← orderItems .distribute]
  else if ← keyword "SORT BY" then return [← orderItems .sort]
  else if ← keyword "START WITH" then conditionClause .start
  else if ← keyword "CONNECT BY" then conditionClause .connect
  else
    match ← firstOf [order, limit, offset, sample] with
    | some t => return [t]
    | none => locks

/-- Clauses of which a query takes one; the two ways to write a limit count as one. -/
def sameClause (a b : Tree) : Bool :=
  let place (t : Tree) : Kind := if t.kind = .clause .fetch then .clause .limit else t.kind
  place a = place b

/-- The clauses that start here, with the keyword that starts them. -/
def readClause : Reading (String × List Tree) := do
  let word ← ahead (matchToken? (isOneOf clauseStarts))
  return ((word.map (·.name)).getD "", ← clausesHere)

def readLaterals : Reading (List Tree) :=
  many lateral

/-- Adds the clauses that start here to a query, or goes back if there are none after all. -/
def addClauses (start : Nat) (this : Tree) : Reading (Option Tree) := do
  match ← inner .clause with
  | (_, []) =>
    back start
    return none
  | (word, c :: others) =>
    if this.parts.any (sameClause c) then refuseWith (.repeatedClause word)
    else return some ((c :: others).foldl Tree.append this)

/-- One more clause of a query, if one starts here. -/
def nextClause (this : Tree) : Reading (Option Tree) := do
  let start ← here
  if ← opens clauseStarts then addClauses start this else return none

/-- Joins and lateral views, then clauses in any order, none of them twice. -/
def readModifiers (this : Tree) : Reading Tree := do
  let joined := (← joins).foldl Tree.append this
  let viewed := (← inner .laterals).foldl Tree.append joined
  loop nextClause viewed

/-- The kind of a set operation and the words behind it; joining words may stand in front. -/
def readOperation : Reading (Option (SetOperation × String)) := do
  let start ← here
  let _ ← joinWords
  let found ← if ← keyword "UNION" then pure (some SetOperation.union)
    else if ← keyword "EXCEPT" then pure (some SetOperation.except)
    else if ← keyword "INTERSECT" then pure (some SetOperation.intersect)
    else pure none
  match found with
  | none =>
    back start
    return none
  | some operation =>
    let words ← if ← keyword "DISTINCT" then pure "DISTINCT"
      else if ← keyword "ALL" then pure "ALL" else pure ""
    let byName ← phrase ["BY", "NAME"]
    if byName then
      if (← oneWritten? ["ON", "BY"]).isSome then
        let _ ← wrapped (commaItems readColumn)
    return some (operation, words)

/-- A query to the right of a set operation, which no further operation belongs to. -/
def rightPlace : QueryPlace :=
  ⟨true, false, true, false⟩

/-- A set operation on the query in front and the one behind. -/
def setOperation (left : Tree) : Reading (Option Tree) := do
  match ← inner .operation with
  | none => return none
  | some (operation, words) =>
    let right ← need "a query" (query rightPlace)
    return some (.node operation.kind words [left, right])

/-- Clauses that count for a whole set operation, though written after its last query. -/
def isSharedClause (t : Tree) : Bool :=
  t.kind ∈ [.clause .order, .clause .limit, .clause .fetch, .clause .offset]

/-- Moves those clauses from the last query of a set operation to the operation. -/
def shareClauses : Tree → Tree
  | .node kind words [left, .node k t parts] =>
    if kind ∈ [.union, .except, .intersect] then
      .node kind words
        (left :: .node k t (parts.filter (!isSharedClause ·)) :: parts.filter isSharedClause)
    else .node kind words [left, .node k t parts]
  | t => t

def readCombinations (this : Tree) : Reading Tree := do
  return shareClauses (← loop setOperation this)

/-- Wraps a query that stood in parentheses. -/
def readSubquery (this : Tree) (aliased : Bool) : Reading Tree := do
  let pivots ← many pivot
  let given ← if aliased then sourceAlias else pure none
  let sample ← sample
  return .node .subquery "" (this :: pivots ++ given.toList ++ sample.toList)

/-- One name defined by `WITH`: the statement behind it stands in parentheses. -/
def cte : Reading (Option Tree) := do
  match ← tableAlias isNameToken with
  | none => refuseHere "a name"
  | some given =>
    let _ ← keyword "AS"
    if !(← phrase ["NOT", "MATERIALIZED"]) then
      let _ ← phrase ["MATERIALIZED"]
    needSymbol "("
    let this ← need "a statement" statement
    needSymbol ")"
    return some (.node (.clause .cte) "" [given, this])

def readCtes : Reading (Option Tree) := do
  if ← keyword "WITH" then
    let _ ← keyword "RECURSIVE"
    let first ← cte
    let items ← loop (fun items => do
      if ← either (symbol ",") (keyword "WITH") then return some (items ++ (← cte).toList)
      else return none) first.toList
    return some (.node (.clause .ctes) "" items)
  else return none

/-- Statements that names may be defined for. -/
def takesCtes (kind : Kind) : Bool :=
  kind.isQuery || kind ∈ [.action .insert, .action .update, .action .delete, .action .merge,
    .action .create]

/-- Puts the names that were defined in front of a statement, through parentheses round it. -/
def withCtes (names : Tree) : Tree → Tree
  | .node .subquery text [inside] =>
    if inside.kind.isClause then .node .subquery text [names, inside]
    else .node .subquery text [withCtes names inside]
  | .node kind text parts => .node kind text (names :: parts)

def readSource : Reading (Option Tree) := do
  if ← keyword "FROM" then
    let this ← need "a table" (readTable false)
    return some (.node (.clause .source) "" [this])
  else return none

def into : Reading (Option Tree) := do
  if ← keyword "INTO" then
    let _ ← keyword "TEMPORARY"
    let _ ← phrase ["UNLOGGED"]
    let _ ← keyword "TABLE"
    let this ← need "a table" (readTable true)
    return some (.node (.clause .into) "" [this])
  else return none

/-- A keyword with a token other than a point behind it. -/
def keywordBefore (name : String) : Reading Bool := do
  return (← take (fun t next => isKeyword name t && next.any (!isSymbol "." ·))).isSome

/-- What follows `SELECT` up to the source, given a source that stood in front of it. -/
def readHead (leading : Option Tree) : Reading (List Tree) := do
  let hint ← matchToken? (fun t => t.kind = .hint)
  let all ← keywordBefore "ALL"
  let distinct ← if all then keyword "DISTINCT" else keywordBefore "DISTINCT"
  if ← keyword "AS" then
    let _ ← oneWritten? ["STRUCT", "VALUE"]
  let on ← if ← onlyIf distinct (keyword "ON") then valueRow else pure none
  if all && distinct then refuseWith (.unexpected "DISTINCT")
  else
    let items ← commaItems readExpression
    let into ← into
    let source ← match leading with
      | some s => pure (some s)
      | none => source
    return (if hint.isSome then [Tree.node (.clause .hint) "" []] else [])
      ++ (if distinct then [Tree.node (.clause .distinct) "" on.toList] else [])
      ++ [Tree.node (.clause .projections) "" items] ++ into.toList ++ source.toList

def selectBody (leading : Option Tree) : Reading Tree := do
  readModifiers (.node .select "" (← inner (.head leading)))

/-- A selection of everything from a source that stood alone. -/
def selectAll (source : Tree) : Tree :=
  .node .select "" [.node (.clause .projections) "" [.node .star "" []], source]

/-- A query or, where one may stand, a table, both without the parentheses round it. -/
def readParenthesised (table : Bool) : Reading (Option Tree) := do
  match ← source with
  | some s =>
    if ← keyword "SELECT" then
      let this ← selectBody (some s)
      return some (← readModifiers (← readCombinations this))
    else return some (← readModifiers (← readCombinations (selectAll s)))
  | none =>
    match ← if table then readTable false else query rightPlace with
    | none => return none
    | some t =>
      let combined ← readCombinations t
      if combined.kind.isQuery || combined.kind = .table then
        return some (← readModifiers combined)
      else return some (← joins >>= fun joins => pure (joins.foldl Tree.append combined))

/-- Rows inserted by the statements that follow a leading source. -/
def readInserts (source : Tree) : Reading (Option Tree) := do
  if ← seesKeyword "INSERT" then
    let inserts ← many (do
      if ← seesKeyword "INSERT" then statement else return none)
    return some (.node (.action .multiInsert) "" (source :: inserts))
  else return none

/-- A stream, a description or plain values, with whether a set operation may follow. -/
def readOtherQuery : Reading (Option Tree × Bool) := do
  let start ← here
  if ← phrase ["STREAM"] then
    match ← call with
    | some t => return (some (.node (.op "STREAM") "" [t]), true)
    | none =>
      back start
      return (none, false)
  else if ← seesKeyword "DESCRIBE" then return (← inner .described, true)
  else return (← values, true)

/-- A query in parentheses, the opening one read. -/
def readWrapped (place : QueryPlace) : Reading (Option Tree) := do
  let inside ← inner (.parenthesised place.table)
  needSymbol ")"
  match inside with
  | some t => return some (← subquery t place.aliased)
  | none => return none

/-- A query without the set operations that may follow it. -/
def plainQuery (place : QueryPlace) : Reading (Option Tree × Bool) := do
  let leading ← source
  if ← keyword "SELECT" then return (some (← selectBody leading), true)
  else if ← onlyIf (leading.isNone && (place.table || place.nested)) (symbol "(") then
    return (← inner (.wrapped place), false)
  else
    match leading with
    | some s =>
      match ← inner (.inserts s) with
      | some t => return (some t, false)
      | none => return (some (← readModifiers (selectAll s)), true)
    | none => inner .otherQuery

def readQuery (place : QueryPlace) : Reading (Option Tree) := do
  match ← inner .ctes with
  | some names =>
    match ← statement with
    | none => refuseHere "a statement"
    | some t =>
      if takesCtes (t.alone?.getD t).kind then return some (withCtes names t)
      else refuseWith (.unexpected t.kind.label)
  | none =>
    let (this, more) ← plainQuery place
    match this with
    | none => return none
    | some t => if more && place.combined then return some (← readCombinations t) else return some t

end Grammar

end QueryGate
