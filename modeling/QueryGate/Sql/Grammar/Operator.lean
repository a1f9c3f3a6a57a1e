import QueryGate.Sql.Grammar.Operand
/-! Operators by how tightly they bind: products, sums, bits, ranges, comparisons, and the logical
connectives, `AND` before `OR`. -/

namespace QueryGate

open Reading

namespace Grammar

/-- Products. A `DIV` with nothing to divide by is a name. -/
def readFactor : Reading (Option Tree) := do
  let first ← readUnary
  loop (fun left => do
    let start ← here
    match ← operatorOf [("DIV", "INTDIV"), ("/", "DIV"), ("*", "MUL"), ("<->", "DISTANCE"),
        (":", "JSONEXTRACT")] with
    | none => return none
    | some key =>
      match left, ← readUnary with
      | some l, some r => return some (some (.node (.op key) "" [l, r]))
      | _, some _ => refuseWith (.expected "an operand")
      | _, none =>
        if key = "INTDIV" then
          back start
          return none
        else refuseWith (.expected "an operand")) first

def readTerm : Reading (Option Tree) :=
  chain (operatorOf [("-", "SUB"), ("+", "ADD"), ("%", "MOD"), ("COLLATE", "COLLATE")]) readFactor

def bitOperator : Reading (Option String) := do
  match ← operatorOf [("&", "BITWISEAND"), ("^", "BITWISEXOR"), ("|", "BITWISEOR"), ("||", "DPIPE"),
      ("??", "COALESCE")] with
  | some key => return some key
  | none =>
    if ← pair "<" "<" then return some "BITWISELEFTSHIFT"
    else if ← pair ">" ">" then return some "BITWISERIGHTSHIFT"
    else return none

def readBitwise : Reading (Option Tree) :=
  chain bitOperator readTerm

def escaped (this : Tree) : Reading Tree := do
  if ← keyword "ESCAPE" then
    let mark ← need "an escape" textLiteral
    return .node (.op "ESCAPE") "" [this, mark]
  else return this

/-- What may be compared with `IN`: a list, a query or a column. -/
def membersOf (this : Tree) : Reading Tree := do
  if ← symbol "(" then
    let items ← commaItems (queryOrExpression false)
    let items ← match items with
      | [q] => if q.kind.isQuery then do pure [← modifiers q] else pure items
      | _ => pure items
    needSymbol ")"
    return .node (.op "IN") "" (this :: items)
  else if ← symbol "[" then
    let items ← commaItems (queryOrExpression false)
    needSymbol "]"
    return .node (.op "IN") "" (this :: items)
  else
    let other ← readColumn
    return .node (.op "IN") "" (this :: other.toList)

def betweenOf (this : Tree) : Reading Tree := do
  let low ← need "a lower bound" readBitwise
  let _ ← keyword "AND"
  let high ← need "an upper bound" readBitwise
  return .node (.op "BETWEEN") "" [this, low, high]

/-- What follows `IS`, if anything fits. -/
def isOf (this : Tree) : Reading (Option Tree) := do
  let negated ← keyword "NOT"
  if ← phrase ["DISTINCT", "FROM"] then
    let other ← need "an operand" readBitwise
    return some (.node (.op (if negated then "NULLSAFEEQ" else "NULLSAFENEQ")) "" [this, other])
  else
    match ← readBitwise with
    | none => return none
    | some other =>
      let test := Tree.node (.op "IS") "" [this, other]
      return some (← columnSteps (if negated then .node (.op "NOT") "" [test] else test))

def patternOperators : List (String × String) :=
  [("LIKE", "LIKE"), ("ILIKE", "ILIKE"), ("RLIKE", "REGEXPLIKE"), ("SIMILAR TO", "SIMILARTO"),
   ("GLOB", "GLOB"), ("OVERLAPS", "OVERLAPS"), ("~~", "LIKE"), ("~~*", "ILIKE"), ("~~~", "GLOB"),
   ("~*", "REGEXPILIKE"), ("@>", "ARRAYCONTAINSALL"), ("<@", "ARRAYCONTAINEDBY")]

/-- One range test after an operand, other than with `IS`. -/
def rangeTest (this : Option Tree) : Reading (Option Tree) := do
  if ← keyword "BETWEEN" then
    return some (← betweenOf (← need "an operand" (return this)))
  else if ← keyword "IN" then
    return some (← membersOf (← need "an operand" (return this)))
  else
    match ← operatorOf patternOperators with
    | some key =>
      let left ← need "an operand" (return this)
      let right ← need "a pattern" readBitwise
      return some (← escaped (.node (.op key) "" [left, right]))
    | none => return none

/-- A test with `IS`, if one stands here. An `IS` with nothing fitting behind it is left alone. -/
def isTest (this : Option Tree) : Reading (Option Tree) := do
  let start ← here
  if ← keyword "IS" then
    let operand ← need "an operand" (return this)
    match ← isOf operand with
    | some test => return some test
    | none =>
      back start
      return none
  else return none

def negatedIf (negated : Bool) (t : Tree) : Tree :=
  if negated then .node (.op "NOT") "" [t] else t

def nullTest (t : Tree) : Tree :=
  .node (.op "IS") "" [t, .node .null "" []]

/-- A test against a range, a list, a pattern or null, possibly negated, and then possibly one more
test with `IS`. -/
def readRange : Reading (Option Tree) := do
  let this ← readBitwise
  let negated ← keyword "NOT"
  if ← seesKeyword "IS" then
    match ← isTest this with
    | none => return this
    | some t =>
      let t := negatedIf negated t
      return (← isTest (some t)).getD t
  else
    let tested ← match ← rangeTest this with
      | some t => pure (some t)
      | none =>
        if ← either (keyword "ISNULL") (onlyIf negated (keyword "NULL")) then
          pure (some (nullTest (← need "an operand" (return this))))
        else if ← keyword "NOTNULL" then
          pure (some (.node (.op "NOT") "" [nullTest (← need "an operand" (return this))]))
        else pure this
    match tested with
    | none => return none
    | some t =>
      let t := negatedIf negated t
      return some ((← isTest (some t)).getD t)

def readComparison : Reading (Option Tree) :=
  chain (operatorOf [(">", "GT"), (">=", "GTE"), ("<", "LT"), ("<=", "LTE")]) readRange

def readEquality : Reading (Option Tree) :=
  chain (operatorOf [("=", "EQ"), ("<>", "NEQ"), ("<=>", "NULLSAFEEQ")]) readComparison

def readConjunction : Reading (Option Tree) :=
  chain (operatorOf [("AND", "AND")]) readEquality

def readDisjunction : Reading (Option Tree) :=
  chain (operatorOf [("OR", "OR")]) readConjunction

/-- An assignment of one expression to another. -/
def readAssignment : Reading (Option Tree) := do
  let this ← readDisjunction
  if ← symbol ":=" then
    let target ← need "a target" (return this)
    let value ← need "a value" assignment
    return some (.node (.op "PROPERTYEQ") "" [target, value])
  else return this

def readExpression : Reading (Option Tree) := do
  withAlias false (← readAssignment)

end Grammar

end QueryGate
