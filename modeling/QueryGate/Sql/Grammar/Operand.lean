import QueryGate.Sql.Grammar.Call
/-! Operands: literals, parentheses, columns with what is applied to them, intervals and signs. -/

namespace QueryGate

open Reading

namespace Grammar

/-- Words after a star that leave columns out or give them other contents. -/
def starOptions : Reading (List Tree) :=
  loop (fun items => do
    if (← oneWritten? ["EXCEPT", "EXCLUDE", "REPLACE", "RENAME"]).isSome then
      if ← symbol "(" then
        let found ← commaItems expression
        needSymbol ")"
        return some (items ++ found)
      else
        let found ← withAlias true (← disjunction)
        return some (items ++ found.toList)
    else return none) []

/-- Strings that follow one another are one text. -/
def texts (first : Token) : Reading Tree := do
  let more ← many textLiteral
  let literal := Tree.node .string first.text []
  if more.isEmpty then return literal
  else return .node (.op "CONCAT") "" (literal :: more)

def isUnwrappedQuery (t : Tree) : Bool :=
  t.kind ∈ [.select, .union, .intersect, .except]

/-- Whether a parenthesis holds a call that gathers rows, so that a window may follow. -/
def holdsAggregate (t : Tree) : Bool :=
  match t with
  | .node .paren _ [.node (.call key) _ _] => aggregateKeys.contains key
  | _ => false

/-- Something in parentheses: a query, a tuple, or one expression. -/
def parens : Reading (Option Tree) := do
  if ← symbol "(" then
    let (items, isOpen) ← match ← query ⟨false, false, true, true⟩ with
      | some q => pure ([q], false)
      | none => commaItemsOpen expression
    match items with
    | [] =>
      needSymbol ")"
      return some (.node .tuple "" [])
    | first :: others =>
      let this ← if first.kind.isQuery then modifiers first else pure first
      let whole ← if isUnwrappedQuery this then subquery this false
        else if this.kind = .subquery || this.kind = .values then do
          let combined ← combinations this
          subquery (← modifiers combined) false
        else if !others.isEmpty || isOpen then pure (Tree.node .tuple "" (this :: others))
        else pure (Tree.node .paren "" [this])
      needSymbol ")"
      if holdsAggregate whole then return some (← window whole) else return some whole
  else return none

/-- Tokens that are literals, alone or with what follows them. -/
def startsLiteral (t : Token) (next : Option Token) : Bool :=
  t.kind = .text || t.kind = .marked || t.kind = .number || isSymbol "*" t || isKeyword "NULL" t
    || isKeyword "TRUE" t || isKeyword "FALSE" t
    || (isSymbol "." t && next.any (fun n => n.kind = .number))

def readPrimary : Reading (Option Tree) := do
  match ← take startsLiteral with
  | some t =>
    if t.kind = .text then return some (← texts t)
    else if t.kind = .marked then return some (.node (.op t.name) t.text [])
    else if t.kind = .number then return some (.node .number t.text [])
    else if isSymbol "*" t then return some (.node .star "" (← starOptions))
    else if isKeyword "NULL" t then return some (.node .null "" [])
    else if isSymbol "." t then
      return (← matchToken? (fun n => n.kind = .number)).map
        (fun n => .node .number ("0." ++ n.text) [])
    else return some (.node .boolean t.name [])
  | none => parens

/-- A literal, a call or a name. Behind a point a call comes first and any word is a name. -/
def field (qualified : Bool) : Reading (Option Tree) :=
  if qualified then
    firstOf [callWith true true false call, readPrimary, anyName]
  else firstOf [readPrimary, call, name]

/-- A name on its own is a column. -/
def asColumn (t : Tree) : Tree :=
  match t.kind with
  | .identifier _ => .node .column "" [t]
  | _ => t

def columnReference : Reading (Option Tree) := do
  match ← field false with
  | some t => return some (asColumn t)
  | none =>
    let found ← take (fun v next => isKeyword "VALUES" v && !next.any (isSymbol "("))
    return found.map (fun v => asColumn (identifierOf v))

/-- A key of a structure, an index, or a slice between two. -/
def bracketItem : Reading (Option Tree) := do
  let this ← withAlias true (← disjunction)
  if ← symbol ":" then
    let other ← assignment
    return some (.node (.op "SLICE") "" (this.toList ++ other.toList))
  else return this

/-- Brackets or braces after an operand, or on their own. -/
def brackets (this : Option Tree) : Reading (Option Tree) :=
  loop (fun this => do
    if ← symbol "[" then
      let items ← commaItems bracketItem
      needSymbol "]"
      match this with
      | none => return some (some (.node (.call "ARRAY") "" items))
      | some t =>
        if items.isEmpty then refuseWith (.expected "an index")
        else return some (some (.node (.op "BRACKET") "" (t :: items)))
    else if ← symbol "\x7b" then
      let items ← commaItems bracketItem
      needSymbol "\x7d"
      return some (some (.node (.call "STRUCT") "" items))
    else return none) this

/-- Operators that bind an operand to a path or a type. -/
def pathOperators : List (String × String) :=
  [("->", "JSONEXTRACT"), ("->>", "JSONEXTRACTSCALAR"), ("#>", "JSONBEXTRACT"),
   ("#>>", "JSONBEXTRACTSCALAR"), ("?", "JSONBCONTAINS")]

/-- Qualifies a column by a further name, up to four names in all. -/
def qualify (this part : Tree) : Tree :=
  match this, part.kind with
  | .node .column _ names, .identifier _ =>
    if names.length < 4 then .node .column "" (names ++ [part])
    else .node (.op "DOT") "" [this, part]
  | .node .column _ names, .star =>
    if names.length < 4 then .node .column "" (names ++ [part])
    else .node (.op "DOT") "" [this, part]
  | _, _ => .node (.op "DOT") "" [this, part]

/-- Points, casts and paths after an operand. -/
def pathSteps (this : Tree) : Reading Tree := do
  let start ← brackets (some this)
  let reached ← loop (fun this => do
    match this with
    | none => return none
    | some t =>
      let next ← if ← symbol "." then do
          let part ← need "a name" (field true)
          pure (some (qualify t part))
        else if ← symbol "::" then do
          let kind ← need "a type" (type false true)
          pure (some (Tree.node (.op "CAST") "" [t, kind]))
        else if ← symbol "?::" then do
          let kind ← need "a type" (type false true)
          pure (some (Tree.node (.op "TRYCAST") "" [t, kind]))
        else
          match ← operatorOf pathOperators with
          | some key =>
            match ← firstOf [columnReference, bitwise] with
            | some path => pure (some (Tree.node (.op key) "" [t, path]))
            | none => refuseWith (.expected "a path")
          | none => pure none
      match next with
      | some t => return some (← brackets (some t))
      | none => return none) start
  return reached.getD this

/-- A path of a variant after a colon. -/
def variantPath (this : Tree) : Reading Tree :=
  loop (fun this => do
    if ← symbol ":" then
      let first ← firstOf [readPrimary, call, anyName,
        nameWhere false (isKeyword "SELECT")]
      match first with
      | some t =>
        let path ← pathSteps (asColumn t)
        return some (.node (.op "JSONEXTRACT") "" [this, path])
      | none => return some this
    else return none) this

def columnSteps (this : Tree) : Reading Tree := do
  variantPath (← pathSteps this)

def readColumn : Reading (Option Tree) := do
  match ← columnReference with
  | some t => return some (← columnSteps t)
  | none => brackets none

/-- The number and unit of an interval; further ones are added to it. -/
def readInterval (marked : Bool) : Reading (Option Tree) := do
  let start ← here
  if !(← either (return !marked) (keyword "INTERVAL")) then return none
  else
    let this ← if ← sees (fun t => t.kind = .text) then readPrimary else term
    let isWord : Bool := match this with
      | some (.node .column _ [.node (.identifier false) text _]) => toUpperText text = "IS"
      | _ => false
    match this with
    | none =>
      back start
      return none
    | some t =>
      if isWord then
        back start
        return none
      else
        let unit ← match ← call with
          | some u => pure (some u)
          | none => if ← seesKeyword "AS" then pure none else anyWord
        let span ← if ← phrase ["TO"] then firstOf [call, anyWord] else pure none
        let whole := Tree.node (.op "INTERVAL") "" (t :: unit.toList ++ span.toList)
        let after ← here
        let _ ← symbol "+"
        if ← sees (fun t => t.kind = .text || t.kind = .number) then
          match ← interval false with
          | some more => return some (.node (.op "ADD") "" [whole, more])
          | none => refuseWith (.expected "an interval")
        else
          back after
          return some whole

/-- A string or number with its type in front. -/
def typedLiteral : Reading (Option Tree) := do
  let start ← here
  match ← type true false with
  | none => return none
  | some kind =>
    let afterType ← here
    match ← readPrimary with
    | some t =>
      if t.kind = .string || t.kind = .number then
        let this ← columnSteps t
        return some (.node (.op "CAST") "" [this, kind])
      else
        back start
        return none
    | none =>
      if 1 < afterType - start && !kind.parts.isEmpty then
        return some (← columnSteps kind)
      else
        back start
        return none

def readOperand : Reading (Option Tree) :=
  firstOf [readInterval true, typedLiteral, readColumn]

/-- A time zone after an operand. -/
def zoned (this : Option Tree) : Reading (Option Tree) :=
  loop (fun this => do
    match this with
    | none => return none
    | some t =>
      if ← phrase ["AT", "TIME", "ZONE"] then
        let zone ← need "a time zone" unary
        return some (some (.node (.op "ATTIMEZONE") "" [t, zone]))
      else return none) this

def readUnary : Reading (Option Tree) := do
  if ← symbol "+" then unary
  else if ← keyword "NOT" then
    return some (.node (.op "NOT") "" [← need "a condition" equality])
  else if ← symbol "~" then
    return some (.node (.op "BITWISENOT") "" [← need "an operand" unary])
  else if ← symbol "-" then
    return some (.node (.op "NEG") "" [← need "an operand" unary])
  else zoned (← readOperand)

end Grammar

end QueryGate
