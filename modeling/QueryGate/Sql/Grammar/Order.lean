import QueryGate.Sql.Grammar.Name
/-! Orders, limits and offsets, and the aliases of expressions, which must not swallow a limit. -/

namespace QueryGate

open Reading

namespace Grammar

def ordered : Reading (Option Tree) := do
  match ← disjunction with
  | none => return none
  | some this =>
    let ascending ← keyword "ASC"
    let descending ← keyword "DESC"
    let nullsFirst ← phrase ["NULLS", "FIRST"]
    let nullsLast ← phrase ["NULLS", "LAST"]
    let words := (if ascending then ["ASC"] else []) ++ (if descending then ["DESC"] else [])
      ++ (if nullsFirst then ["NULLS FIRST"] else []) ++ (if nullsLast then ["NULLS LAST"] else [])
    return some (.node (.clause .ordered) (" ".intercalate words) [this])

/-- The items of an order, its keyword read. -/
def orderItems (clause : Clause) : Reading Tree := do
  return .node (.clause clause) "" (← someItems "an order" (commaItems ordered))

def order : Reading (Option Tree) := do
  if ← keyword "ORDER BY" then return some (← orderItems .order) else return none

def limitBy : Reading (List Tree) := do
  if ← phrase ["BY"] then commaItems bitwise else return []

/-- `PERCENT`, `ROWS`, `ONLY` and `WITH TIES` after a count of rows. -/
def limitOptions : Reading Unit := do
  let _ ← either (keyword "PERCENT") (symbol "%")
  let _ ← accepts (isOneOf ["ROW", "ROWS"])
  let _ ← phrase ["ONLY"]
  let _ ← phrase ["WITH", "TIES"]

/-- A limit, possibly with an offback before it and a comma between. -/
def limit : Reading (Option Tree) := do
  if ← keyword "LIMIT" then
    let first ← term
    if ← symbol "," then
      let count ← need "a limit" term
      return some (.node (.clause .limit) "" (count :: first.toList ++ (← limitBy)))
    else
      match first with
      | none => refuseHere "a limit"
      | some count =>
        limitOptions
        return some (.node (.clause .limit) "" (count :: (← limitBy)))
  else if ← keyword "FETCH" then
    let _ ← accepts (isOneOf ["FIRST", "NEXT"])
    let count ← firstOf [primary, name]
    limitOptions
    return some (.node (.clause .fetch) "" count.toList)
  else return none

def offset : Reading (Option Tree) := do
  if ← keyword "OFFSET" then
    let count ← need "an offset" term
    let _ ← accepts (isOneOf ["ROW", "ROWS"])
    return some (.node (.clause .offset) "" (count :: (← limitBy)))
  else return none

/-- Whether an offset can be read here, so that its keyword is no alias. A `LIMIT` never is one. -/
def offsetAhead : Reading Bool := do
  if ← seesKeyword "OFFSET" then return (← ahead (attempt offset)).isSome else return false

/-- The alias of an expression; where it has to be explicit, only after `AS`. -/
def withAlias (explicit : Bool) (this : Option Tree) : Reading (Option Tree) := do
  if ← offsetAhead then return this
  let marked ← keyword "AS"
  if explicit && !marked then return this
  if ← symbol "(" then
    let names ← commaItems (givenName marked isNameToken)
    needSymbol ")"
    match this with
    | some t => return some (.node (.op "ALIASES") "" (t :: names))
    | none => refuseHere "an expression"
  else
    match ← givenName marked isNameToken with
    | some given =>
      match this with
      | some t => return some (.node .aliased "" [t, given])
      | none => refuseWith (.expected "an expression")
    | none => return this

end Grammar

end QueryGate
