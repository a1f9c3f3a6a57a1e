import QueryGate.Sql.Grammar.Name
/-! Types: plain ones with sizes, and arrays, maps and structures of other types. -/

namespace QueryGate

open Reading

def isTypeToken (t : Token) : Bool :=
  t.kind = .keyword && typeKeywords.contains t.name

def nestedTypes : List String :=
  ["ARRAY", "LIST", "MAP", "NULLABLE", "RANGE", "STRUCT", "OBJECT", "NESTED"]

def structTypes : List String :=
  ["FILE", "NESTED", "OBJECT", "STRUCT"]

def clockTypes : List String :=
  ["TIME", "TIMESTAMP", "TIMESTAMPTZ", "TIMESTAMPLTZ", "TIMESTAMPNTZ", "TIMETZ"]

namespace Grammar

/-- One field of a structure: a type alone, or a name and a type with a comment. -/
def structField : Reading (Option Tree) := do
  let start ← here
  let bothTypes ← seesBefore (fun a b => isTypeToken a && b.any isTypeToken)
  let first ← if bothTypes then anyName else firstOf [type true false, anyName]
  let _ ← symbol ":"
  let isType := first.any (fun t => t.kind = .type)
  if !isType && !(← sees isTypeToken) then
    back start
    type false true
  else
    let kind ← type false true
    let _ ← phrase ["NOT", "NULL"]
    if ← phrase ["COMMENT"] then
      let _ ← textLiteral
    match first with
    | some t => return some (.node (.op "COLUMNDEF") "" (t :: kind.toList))
    | none => return none

/-- The size of a type, such as a precision. -/
def typeSize : Reading (Option Tree) := do
  match ← operand with
  | none => return none
  | some t =>
    let unit ← anyWord
    return some (.node (.op "DATATYPEPARAM") "" (t :: unit.toList))

/-- The type that a token names. A quoted name may spell one. -/
def typeName? (allowNames : Bool) (t : Token) : Option String :=
  if isTypeToken t then some t.name
  else if allowNames && t.kind = .quoted then
    (keywordName? (toUpperText t.text)).filter (typeKeywords.contains ·)
  else none

/-- Which token starts a type. -/
def typeName (allowNames : Bool) : Reading (Option String) := do
  let found ← matchToken? (fun t => (typeName? allowNames t).isSome)
  return found.bind (typeName? allowNames)

def zoneWords : Reading Bool := do
  if ← phrase ["WITH", "TIME", "ZONE"] then return true
  else if ← phrase ["WITH", "LOCAL", "TIME", "ZONE"] then return true
  else phrase ["WITHOUT", "TIME", "ZONE"]

/-- Brackets after a type make an array of it; anything but an empty pair is left alone. -/
def arraySuffix (t : Tree) : Reading Tree :=
  loop (fun t => do
    if ← pair "[" "]" then return some (.node .type "ARRAY" [t]) else return none) t

/-- A type. Where `call` holds, a type with a size counts only before a string. -/
def readType (call allowNames : Bool) : Reading (Option Tree) := do
  let start ← here
  match ← typeName allowNames with
  | none => return none
  | some name =>
    let nested := nestedTypes.contains name
    let isStruct := structTypes.contains name
    let inner : Reading (Option Tree) :=
      if isStruct then structField
      else if nested then type call allowNames
      else typeSize
    let (sizes, sized, failed) ← if ← symbol "(" then do
        let items ← commaItems inner
        if items.isEmpty then pure ([], false, true)
        else if ← symbol ")" then pure (items, true, false)
        else pure ([], false, true)
      else pure ([], false, false)
    if failed then
      back start
      return none
    else
      let parts ← if ← onlyIf (!sized && nested) (symbol "<") then do
          let items ← commaItems inner
          needSymbol ">"
          pure items
        else pure sizes
      let zoned ← if clockTypes.contains name then zoneWords else pure false
      if name = "INTERVAL" then
        let unit ← matchToken? (fun t => t.kind = .word)
        if unit.isSome then
          if ← phrase ["TO"] then
            let _ ← matchToken? (fun t => t.kind = .word)
      if sized && call && !zoned && !(← sees (fun t => t.kind = .text)) then
        back start
        return none
      else return some (← arraySuffix (.node .type name parts))

end Grammar

end QueryGate
