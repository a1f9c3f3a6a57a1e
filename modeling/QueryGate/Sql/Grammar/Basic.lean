import QueryGate.Sql.Reading
import QueryGate.Text.CaseMap
/-! Readers from which the grammar is put together: single tokens by what they are, words in a row,
and items between commas. -/

namespace QueryGate

def isKeyword (name : String) (t : Token) : Bool :=
  t.kind = .keyword && t.name = name

def isSymbol (name : String) (t : Token) : Bool :=
  t.kind = .symbol && t.name = name

/-- Whether a token is written with these letters, whatever it is. -/
def isWritten (upper : String) (t : Token) : Bool :=
  t.kind ≠ .text && toUpperText t.text = upper

namespace Reading

def refuseWith {α : Type} (e : SyntaxError) : Reading α :=
  refuse (fun _ => e)

/-- Refuses with the token that stands here. -/
def refuseHere {α : Type} (what : String) : Reading α :=
  refuse (fun found => match found with
    | some t => .unexpected t.text
    | none => .expected what)

/-- Goes past a token that satisfies the test. -/
def matchToken? (p : Token → Bool) : Reading (Option Token) :=
  take (fun t _ => p t)

def accepts (p : Token → Bool) : Reading Bool := do
  return (← matchToken? p).isSome

def keyword (name : String) : Reading Bool :=
  accepts (isKeyword name)

def symbol (name : String) : Reading Bool :=
  accepts (isSymbol name)

/-- Whether the token here and the one behind it fit; nothing is read. -/
def seesBefore (p : Token → Option Token → Bool) : Reading Bool := do
  let start ← here
  let found ← take p
  back start
  return found.isSome

/-- Whether the token here satisfies the test; nothing is read. -/
def sees (p : Token → Bool) : Reading Bool :=
  look (fun found => found.any p)

def seesKeyword (name : String) : Reading Bool :=
  sees (isKeyword name)

def seesSymbol (name : String) : Reading Bool :=
  sees (isSymbol name)

def atEnd : Reading Bool :=
  look Option.isNone

/-- Goes past words for as long as they stand here. -/
def written : List String → Reading Bool
  | [] => return true
  | w :: ws => do
    if ← accepts (isWritten w) then written ws else return false

/-- Goes past a sequence of words if all of them stand here. -/
def phrase (words : List String) : Reading Bool := do
  let start ← here
  if ← written words then return true
  else
    back start
    return false

/-- Goes past one of several words. -/
def oneWritten? (words : List String) : Reading (Option Token) :=
  matchToken? (fun t => words.any (fun w => isWritten w t))

def isNamed (name : String) (t : Token) : Bool :=
  (t.kind = .symbol || t.kind = .keyword) && t.name = name

/-- Goes past two symbols or keywords by name. -/
def pair (first second : String) : Reading Bool := do
  if (← take (fun a b => isNamed first a && b.any (isNamed second))).isSome then
    accepts (isNamed second)
  else return false

/-- The first of two readers that succeeds; the second is tried only if the first does not. -/
def either (a b : Reading Bool) : Reading Bool := do
  if ← a then return true else b

/-- A reader that is tried only under a condition. -/
def onlyIf (condition : Bool) (r : Reading Bool) : Reading Bool :=
  if condition then r else return false

def needSymbol (name : String) : Reading Unit := do
  if ← symbol name then return () else refuseHere name

/-- A result that the construct cannot do without. -/
def need {α : Type} (what : String) (r : Reading (Option α)) : Reading α := do
  match ← r with
  | some t => return t
  | none => refuseWith (.expected what)

/-- Reads without going on. -/
def ahead {α : Type} (r : Reading α) : Reading α := do
  let start ← here
  let a ← r
  back start
  return a

/-- Tries readers in turn until one finds its construct. -/
def firstOf {α : Type} : List (Reading (Option α)) → Reading (Option α)
  | [] => return none
  | r :: rs => do
    match ← r with
    | some t => return some t
    | none => firstOf rs

/-- Items while they are found. -/
def many (item : Reading (Option Tree)) : Reading (List Tree) :=
  loop (fun items => do return (← item).map (fun t => items ++ [t])) []

/-- Items between commas. An item may be missing, at the end too. -/
def commaItems (item : Reading (Option Tree)) : Reading (List Tree) := do
  let first ← item
  loop (fun items => do
    if ← symbol "," then return some (items ++ (← item).toList) else return none) first.toList

/-- Items between commas, with whether the last one is missing after a comma. -/
def commaItemsOpen (item : Reading (Option Tree)) : Reading (List Tree × Bool) := do
  let first ← item
  loop (fun (items, _) => do
    if ← symbol "," then
      match ← item with
      | some t => return some (items ++ [t], false)
      | none => return some (items, true)
    else return none) (first.toList, false)

/-- What a reader finds inside parentheses, which have to be there. -/
def wrapped {α : Type} (r : Reading α) : Reading α := do
  needSymbol "("
  let a ← r
  needSymbol ")"
  return a

/-- Refuses an empty list of items. -/
def someItems (what : String) (items : Reading (List Tree)) : Reading (List Tree) := do
  let found ← items
  if found.isEmpty then refuseWith (.expected what) else return found

/-- A left-associative chain: operands with operators between them. -/
def chain (operator : Reading (Option String)) (operand : Reading (Option Tree)) :
    Reading (Option Tree) := do
  let first ← operand
  loop (fun left => do
    match ← operator with
    | some key =>
      match left with
      | none => refuseWith (.expected "an operand")
      | some l =>
        let r ← need "an operand" operand
        return some (some (.node (.op key) "" [l, r]))
    | none => return none) first

/-- What a symbol or keyword is called in a table of operators. -/
def operatorName? (table : List (String × String)) (t : Token) : Option String :=
  if t.kind = .symbol || t.kind = .keyword then table.lookup t.name else none

/-- An operator by the names of its tokens. -/
def operatorOf (table : List (String × String)) : Reading (Option String) := do
  return (← matchToken? (fun t => (operatorName? table t).isSome)).bind (operatorName? table)

end Reading

namespace Grammar

open Reading

def statement : Reading (Option Tree) := inner .statement

def source : Reading (Option Tree) := inner .source

def query (place : QueryPlace) : Reading (Option Tree) := inner (.query place)

def modifiers (this : Tree) : Reading Tree := inner (.modifiers this)

def combinations (this : Tree) : Reading Tree := inner (.combinations this)

def subquery (this : Tree) (aliased : Bool) : Reading Tree := inner (.subquery this aliased)

def table (schema : Bool) : Reading (Option Tree) := inner (.table schema)

def joins : Reading (List Tree) := inner .joins

def expression : Reading (Option Tree) := inner .expression

def assignment : Reading (Option Tree) := inner .assignment

def disjunction : Reading (Option Tree) := inner .disjunction

def equality : Reading (Option Tree) := inner .equality

def bitwise : Reading (Option Tree) := inner .bitwise

def term : Reading (Option Tree) := inner .term

def unary : Reading (Option Tree) := inner .unary

def operand : Reading (Option Tree) := inner .operand

def column : Reading (Option Tree) := inner .column

def primary : Reading (Option Tree) := inner .primary

def interval (marked : Bool) : Reading (Option Tree) := inner (.interval marked)

def type (call allowNames : Bool) : Reading (Option Tree) := inner (.type call allowNames)

end Grammar

end QueryGate
