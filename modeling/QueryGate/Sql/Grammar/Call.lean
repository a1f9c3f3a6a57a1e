import QueryGate.Sql.Grammar.Order
import QueryGate.Sql.Grammar.Type
import QueryGate.Sql.Function
/-! Calls of functions, the windows over them, and the expressions that read like calls. -/

namespace QueryGate

open Reading

namespace Grammar

/-- One bound of a window's frame. -/
def frameBound : Reading (List Tree) := do
  let _ ← keyword "BETWEEN"
  let bound ← if ← phrase ["UNBOUNDED"] then pure []
    else if ← phrase ["CURRENT", "ROW"] then pure []
    else do pure (← bitwise).toList
  let _ ← oneWritten? ["PRECEDING", "FOLLOWING"]
  return bound

def frame : Reading (Option Tree) := do
  if ← accepts (isOneOf ["ROWS", "RANGE"]) then
    let _ ← keyword "BETWEEN"
    let low ← frameBound
    let high ← if ← keyword "AND" then frameBound else pure []
    return some (.node (.clause .frame) "" (low ++ high))
  else return none

/-- What stands in the parentheses of a window. -/
def windowBody : Reading (List Tree) := do
  let base ← nameWhere false (fun t => isNameToken t && !isOneOf ["ROWS", "RANGE"] t)
  let _ ← oneWritten? ["FIRST", "LAST"]
  let partition ← if ← keyword "PARTITION BY" then do
      pure [Tree.node (.clause .partition) "" (← commaItems disjunction)]
    else pure []
  let order ← order
  let frame ← frame
  return base.toList ++ partition ++ order.toList ++ frame.toList

def nullsWords : Reading Bool := do
  if ← phrase ["IGNORE", "NULLS"] then return true else phrase ["RESPECT", "NULLS"]

/-- The order, filter and window that may follow a call. -/
def window (this : Tree) : Reading Tree := do
  let ordered ← if ← phrase ["WITHIN", "GROUP"] then do
      let order ← wrapped order
      pure (Tree.node (.op "WITHINGROUP") "" (this :: order.toList))
    else pure this
  let filtered ← if ← pair "FILTER" "(" then do
      let _ ← keyword "WHERE"
      let condition ← need "a condition" disjunction
      needSymbol ")"
      pure (Tree.node (.op "FILTER") "" [ordered, condition])
    else pure ordered
  let marked ← if ← nullsWords then pure (Tree.node (.op "IGNORENULLS") "" [filtered])
    else pure filtered
  if ← keyword "OVER" then
    if ← symbol "(" then
      let body ← windowBody
      needSymbol ")"
      return .node (.op "WINDOW") "" (marked :: body)
    else
      let base ← name
      return .node (.op "WINDOW") "" (marked :: base.toList)
  else return marked

/-- The branches of a `CASE`, its keyword read. -/
def caseBranches : Reading (Option Tree) := do
  if ← seesSymbol "." then return none
  else
    let subject ← disjunction
    let branches ← many (do
      if ← keyword "WHEN" then
        let condition ← need "a condition" disjunction
        let _ ← keyword "THEN"
        let value ← need "a value" disjunction
        return some (.node (.op "IF") "" [condition, value])
      else return none)
    let otherwise ← if ← keyword "ELSE" then disjunction else pure none
    if ← keyword "END" then
      if branches.isEmpty then refuseWith (.expected "WHEN")
      else return some (.node (.op "CASE") "" (subject.toList ++ branches ++ otherwise.toList))
    else refuseHere "END"

/-- A query, or an expression with what set operations follow it. -/
def queryOrExpression (aliased : Bool) : Reading (Option Tree) := do
  match ← query ⟨false, false, true, true⟩ with
  | some q => return some q
  | none =>
    let this ← assignment
    let this ← if aliased then withAlias true this else pure this
    match this with
    | some t => return some (← combinations t)
    | none => return none

/-- The parameters of a lambda, if the text can start one. -/
def lambdaParameters : Reading (List Tree) := do
  let start ← here
  if ← symbol "(" then
    let names ← commaItems anyName
    if ← symbol ")" then return names
    else
      back start
      return []
  else return (← anyName).toList

/-- A lambda or a named argument, if one stands here. -/
def lambda : Reading (Option Tree) := do
  let start ← here
  let parameters ← lambdaParameters
  if ← symbol "->" then
    let body ← need "a body" disjunction
    return some (.node (.op "LAMBDA") "" (parameters ++ [body]))
  else if ← symbol "=>" then
    let value ← need "a value" disjunction
    return some (.node (.op "KWARG") "" (parameters ++ [value]))
  else
    back start
    return none

/-- One argument of a call. -/
def argument (aliased : Bool) : Reading (Option Tree) := do
  match ← lambda with
  | some t => return some t
  | none =>
    let this ← if ← keyword "DISTINCT" then do
        pure (some (Tree.node (.clause .distinct) "" (← commaItems disjunction)))
      else queryOrExpression aliased
    let _ ← nullsWords
    if ← keyword "HAVING" then
      let _ ← oneWritten? ["MAX", "MIN"]
      let _ ← column
    let order ← order
    let limit ← limit
    match this, order.toList ++ limit.toList with
    | some t, [] => return some t
    | some t, more => return some (.node (.op "ORDER") "" (t :: more))
    | none, [] => return none
    | none, more => return some (.node (.op "ORDER") "" more)

def castOf (key : String) : Reading Tree := do
  let this ← assignment
  if ← keyword "AS" then
    let kind ← need "a type" (type false true)
    if ← keyword "FORMAT" then
      let _ ← textLiteral
    match this with
    | some t => return .node (.op key) "" [t, kind]
    | none => refuseWith (.expected "an expression")
  else if ← symbol "," then
    let kind ← need "a type" textLiteral
    return .node (.op "CASTTOSTRTYPE") "" (this.toList ++ [kind])
  else refuseHere "AS"

def extractOf (call : Reading (Option Tree)) : Reading Tree := do
  let part ← need "a part" (firstOf [call, anyWord])
  if ← either (keyword "FROM") (symbol ",") then
    let this ← need "an expression" bitwise
    return .node (.op "EXTRACT") "" [part, this]
  else refuseHere "FROM"

def positionOf : Reading Tree := do
  let items ← commaItems bitwise
  if ← keyword "IN" then
    let this ← need "an expression" bitwise
    return .node (.op "STRPOSITION") "" (items ++ [this])
  else if items.length < 2 then refuseWith (.expected "an expression")
  else return .node (.op "STRPOSITION") "" items

def substringOf : Reading Tree := do
  let items ← someItems "an expression" (commaItems bitwise)
  let bounds ← loop (fun bounds => do
    if ← either (keyword "FROM") (keyword "FOR") then
      return some (bounds ++ (← bitwise).toList)
    else return none) []
  return .node (.op "SUBSTRING") "" (items ++ bounds)

def trimOf : Reading Tree := do
  let _ ← oneWritten? ["LEADING", "TRAILING", "BOTH"]
  let this ← need "an expression" bitwise
  let other ← if ← either (keyword "FROM") (symbol ",") then bitwise else pure none
  if ← keyword "COLLATE" then
    let _ ← bitwise
  return .node (.op "TRIM") "" (this :: other.toList)

def roundedOf (key : String) : Reading Tree := do
  let items ← commaItems (argument false)
  if ← phrase ["TO"] then
    let _ ← anyWord
  return .node (.op key) "" items

/-- Calls whose arguments are not a plain list. -/
def specialCall? (call : Reading (Option Tree)) (upper : String) :
    Option (Reading Tree) :=
  match upper with
  | "CAST" => some (castOf "CAST")
  | "TRY_CAST" | "SAFE_CAST" => some (castOf "TRYCAST")
  | "EXTRACT" => some (extractOf call)
  | "POSITION" => some positionOf
  | "SUBSTRING" | "SUBSTR" => some substringOf
  | "TRIM" => some trimOf
  | "CEIL" | "CEILING" => some (roundedOf "CEIL")
  | "FLOOR" => some (roundedOf "FLOOR")
  | _ => none

/-- The arguments of a call in parentheses, the opening one read. -/
def arguments (call : Reading (Option Tree)) (t : Token) (special : Bool) :
    Reading Tree := do
  let upper := toUpperText t.text
  match if special then specialCall? call upper else none with
  | some r =>
    let this ← r
    needSymbol ")"
    return this
  | none =>
    let quantified := t.kind = .keyword && quantifierKeywords.contains t.name
    if quantified && (← sees (isOneOf ["SELECT", "WITH"])) then
      let query ← query ⟨false, false, true, true⟩
      needSymbol ")"
      return .node (.op t.name) "" query.toList
    else
      let signature := if special then knownFunctions.lookup upper else none
      let aliased := signature.isNone || upper = "STRUCT"
      let items ← commaItems (argument aliased)
      match signature with
      | some s =>
        if s.allows items.length then
          needSymbol ")"
          return .node (.call s.key) t.text items
        else refuseWith (.unexpected t.text)
      | none =>
        needSymbol ")"
        return .node (.call anonymousKey) t.text items

def isCallToken (t : Token) : Bool :=
  t.kind = .word || t.kind = .quoted || (t.kind = .keyword && callKeywords.contains t.name)

/-- A call in parentheses, with any token as its name or only one that is a function's. -/
def parenthesised (call : Reading (Option Tree)) (any special : Bool) :
    Reading (Option Tree) := do
  match ← take (fun t next =>
      (if any then !isReservedToken t else isCallToken t) && next.any (isSymbol "(")) with
  | some t =>
    needSymbol "("
    let this ← arguments call t special
    return some (← window this)
  | none => return none

/-- Words that start an expression of their own without parentheses. -/
def wordExpression? (t : Token) : Option (Reading (Option Tree)) :=
  if t.kind = .quoted || t.kind = .text then none
  else match toUpperText t.text with
  | "CASE" => some caseBranches
  | "ANY" => some (do return some (.node (.op "ANY") "" [← need "an expression" bitwise]))
  | "CONNECT_BY_ROOT" =>
    some (do return some (.node (.op "CONNECTBYROOT") "" [← need "a column" column]))
  | "IF" => some (do
    if ← symbol "(" then
      let items ← commaItems (do withAlias true (← assignment))
      if items.length < 2 || 3 < items.length then refuseWith (.unexpected "IF")
      else
        needSymbol ")"
        return some (.node (.op "IF") "" items)
    else
      match ← disjunction with
      | none => return none
      | some condition =>
        let _ ← keyword "THEN"
        let value ← need "a value" disjunction
        let otherwise ← if ← keyword "ELSE" then disjunction else pure none
        let _ ← keyword "END"
        return some (.node (.op "IF") "" (condition :: value :: otherwise.toList)))
  | _ => none

def isClockToken (t : Token) : Bool :=
  t.kind = .keyword && clockKeywords.contains t.name

/-- A call, or an expression that a word alone starts. -/
def callWith (bare any special : Bool) (inside : Reading (Option Tree)) :
    Reading (Option Tree) := do
  let start ← here
  match ← matchToken? (fun t => bare && (wordExpression? t).isSome) with
  | some t =>
    match ← (wordExpression? t).getD (return none) with
    | some this => return some (← window this)
    | none =>
      back start
      return none
  | none =>
    match ← parenthesised inside any special with
    | some this => return some this
    | none =>
      let found ← matchToken? (fun t => bare && isClockToken t)
      return found.map (fun t => .node (.op (t.name.replace "_" "")) "" [])

/-- A call where one may be written without parentheses too. -/
def call : Reading (Option Tree) :=
  callWith true false true (callWith true false true (return none))

end Grammar

end QueryGate
