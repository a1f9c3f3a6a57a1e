import QueryGate.Failure
import QueryGate.Query.Select
import QueryGate.Text.CaseMap
import QueryGate.Value.Literal
/-! Queries put together in an editor: fields, filters, grouping, order and limit, each given as text.
A definition that makes sense becomes a query as data. -/

namespace QueryGate

structure FieldSelection where
  column : Option String
  aggregation : Option String
  outputName : Option String
deriving DecidableEq

/-- A filter; its condition says how it joins those before it. -/
structure FilterCondition where
  column : Option String
  operator : Option String
  value : Option String
  condition : Option String
deriving DecidableEq

structure VisualQuery where
  database : Option String
  table : Option String
  fields : List FieldSelection
  filters : List FilterCondition
  groupBy : List String
  orderBy : Option String
  orderDirection : Option String
  limit : Option Nat
  enableFilter : Bool
  enableGroup : Bool
  enableOrder : Bool
deriving DecidableEq

def invalidPayload {α : Type} (message : String) : Except Failure α :=
  .error ⟨.invalidPayload, message, none⟩

/-- A text that is given and not empty. -/
def filled? (s : Option String) : Option String :=
  s.filter (!·.isEmpty)

def ColumnRef.ofName (name : String) : ColumnRef :=
  if name = "*" then .star else .named name

/-- The value of a filter without blanks, single quotes and double quotes round it. -/
def filterValue (cs : List Char) : String :=
  String.ofList (trimOf (· = '"') (trimOf (· = '\'') (trimBlanks cs)))

/-- A value of any type as a constant of SQL text. Truth values and numbers stand as they are, all else is a string literal
of its text. -/
def Cell.sqlConstant : Cell → Except Fault String
  | .bool b => .ok (if b then "TRUE" else "FALSE")
  | .int n => shownInt n
  | .float x => .ok (floatText x)
  | cell => cell.plainText.map fun s => String.ofList (stringLiteral (filterValue s.toList))

def Aggregation.ofText? (text : String) : Option Aggregation :=
  Aggregation.all.find? (·.label = toUpperText text)

/-- A star without aggregation takes no alias. -/
def FieldSelection.projection (column : String) (field : FieldSelection) :
    Except Failure Projection :=
  match filled? field.aggregation with
  | some text =>
    match Aggregation.ofText? text with
    | some a => .ok ⟨ColumnRef.ofName column, some a, filled? field.outputName⟩
    | none => invalidPayload ("Unsupported aggregation: " ++ text)
  | none =>
    if column = "*" then .ok ⟨.star, none, none⟩
    else .ok ⟨.named column, none, filled? field.outputName⟩

/-- The projections of the fields that name a column. -/
def projections : List FieldSelection → Except Failure (List Projection)
  | [] => .ok []
  | field :: rest =>
    match filled? field.column with
    | none => projections rest
    | some column => do return (← field.projection column) :: (← projections rest)

/-- The items between commas. -/
def splitAtCommas (cs : List Char) : List (List Char) :=
  match cs with
  | [] => [[]]
  | c :: rest =>
    if c = ',' then [] :: splitAtCommas rest
    else
      match splitAtCommas rest with
      | [] => [[c]]
      | item :: items => (c :: item) :: items

/-- The items between commas that are not blank, as values. -/
def listValues (value : String) : List String :=
  ((splitAtCommas value.toList).filter (!·.all isBlank)).map filterValue

def andMark : List Char := " AND ".toList

/-- How often the mark stands in the text, `skip` characters being part of the last one found. -/
def countMarks (skip : Nat) : List Char → Nat
  | [] => 0
  | c :: cs =>
    match skip with
    | k + 1 => countMarks k cs
    | 0 => if andMark.isPrefixOf (c :: cs) then countMarks 4 cs + 1 else countMarks 0 cs

/-- The number of characters in front of the first mark. -/
def beforeMark : List Char → Nat
  | [] => 0
  | c :: cs => if andMark.isPrefixOf (c :: cs) then 0 else beforeMark cs + 1

/-- The two ends of a range, if exactly one mark stands between them in whatever case. -/
def rangeValues (value : String) : Option (String × String) :=
  let upper := upperChars value.toList
  if countMarks 0 upper ≠ 1 then none
  else
    let cut := beforeMark upper
    some (filterValue (value.toList.take cut),
      filterValue (value.toList.drop (cut + andMark.length)))

def Comparison.ofText? : String → Option Comparison
  | "=" => some .equal
  | "!=" | "<>" => some .unequal
  | ">" => some .greater
  | "<" => some .less
  | ">=" => some .greaterOrEqual
  | "<=" => some .lessOrEqual
  | _ => none

def Pattern.ofText? : String → Option Pattern
  | "LIKE" => some .like
  | "ILIKE" => some .ilike
  | "RLIKE" | "REGEXP" => some .regexp
  | _ => none

/-- A predicate by an operator in capitals that has no `NOT` before it, `NOT IN` apart. `written` is the
operator as it was given. -/
def plainPredicate (column op written value : String) : Except Failure Predicate :=
  let left := ColumnRef.ofName column
  match Comparison.ofText? op, Pattern.ofText? op with
  | some how, _ => .ok (.compare left how (filterValue value.toList))
  | none, some how => .ok (.fits left how (filterValue value.toList))
  | none, none =>
    if op = "IS NULL" then .ok (.isNull left)
    else if op = "IS NOT NULL" then .ok (.negated (.isNull left))
    else if op = "IN" ∨ op = "NOT IN" then
      let items := listValues value
      if items.isEmpty then
        invalidPayload (op ++ " filter on " ++ column ++ " requires at least one value")
      else if op = "IN" then .ok (.oneOf left items)
      else .ok (.negated (.oneOf left items))
    else if op = "BETWEEN" then
      match rangeValues value with
      | some (low, high) => .ok (.between left low high)
      | none => invalidPayload ("BETWEEN filter on " ++ column ++ " requires 'low AND high'")
    else invalidPayload ("Unsupported filter operator: " ++ written)

def notMark : List Char := "NOT ".toList

def FilterCondition.predicate (column operator : String) (f : FilterCondition) :
    Except Failure Predicate :=
  let op := singleSpaced (toUpperText operator)
  let value := f.value.getD ""
  if notMark.isPrefixOf op.toList ∧ op ≠ "NOT IN" then
    (plainPredicate column (String.ofList (op.toList.drop notMark.length)) operator value).map
      Predicate.negated
  else plainPredicate column op operator value

/-- Joins a predicate to the condition before it. -/
def FilterCondition.join (f : FilterCondition) (before : Option Condition) (p : Predicate) :
    Condition :=
  match before with
  | none => .test p
  | some c =>
    if toUpperText (f.condition.getD "") = "OR" then .either c p else .both c p

/-- The condition of the filters that have a column and an operator. -/
def conditionOf (before : Option Condition) :
    List FilterCondition → Except Failure (Option Condition)
  | [] => .ok before
  | f :: rest =>
    match filled? f.column, filled? f.operator with
    | some column, some operator => do
      let p ← f.predicate column operator
      conditionOf (some (f.join before p)) rest
    | _, _ => conditionOf before rest

def VisualQuery.order (q : VisualQuery) : Option (ColumnRef × Bool) :=
  if q.enableOrder then
    (filled? q.orderBy).map fun column =>
      (ColumnRef.ofName column, toUpperText (q.orderDirection.getD "") = "DESC")
  else none

def VisualQuery.select (q : VisualQuery) : Except Failure Select :=
  match filled? q.database, filled? q.table with
  | some database, some table => do
    let items ← projections q.fields
    if items.isEmpty then invalidPayload "Visual query requires at least one field"
    else
      let condition ← if q.enableFilter then conditionOf none q.filters else .ok none
      return {
        projections := items, database, table, condition
        group := if q.enableGroup then q.groupBy.map ColumnRef.ofName else []
        order := q.order
        limit := q.limit.filter (· ≠ 0) }
  | _, _ => invalidPayload "Visual query requires database and table"

/-- The SQL text of a definition. -/
def VisualQuery.text (q : VisualQuery) : Except Failure String :=
  q.select.map Select.text

end QueryGate
