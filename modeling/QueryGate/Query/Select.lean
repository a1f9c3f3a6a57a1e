import QueryGate.Sql.Identifier
import QueryGate.Sql.StringLiteral
import QueryGate.Text.Blank
/-! One-table queries as data, and their SQL text. Names are quoted where they have to be and each value
is a string literal. -/

namespace QueryGate

inductive ColumnRef
  | star
  | named (name : String)
deriving DecidableEq, Repr

inductive Aggregation
  | count
  | sum
  | avg
  | min
  | max
deriving DecidableEq, Repr

def Aggregation.label : Aggregation → String
  | .count => "COUNT"
  | .sum => "SUM"
  | .avg => "AVG"
  | .min => "MIN"
  | .max => "MAX"

def Aggregation.all : List Aggregation :=
  [.count, .sum, .avg, .min, .max]

structure Projection where
  column : ColumnRef
  aggregation : Option Aggregation
  outputName : Option String
deriving DecidableEq, Repr

inductive Comparison
  | equal
  | unequal
  | greater
  | less
  | greaterOrEqual
  | lessOrEqual
deriving DecidableEq, Repr

def Comparison.label : Comparison → String
  | .equal => "="
  | .unequal => "<>"
  | .greater => ">"
  | .less => "<"
  | .greaterOrEqual => ">="
  | .lessOrEqual => "<="

inductive Pattern
  | like
  | ilike
  | regexp
deriving DecidableEq, Repr

/-- A test of one column. -/
inductive Predicate
  | compare (column : ColumnRef) (how : Comparison) (value : String)
  | fits (column : ColumnRef) (how : Pattern) (value : String)
  | isNull (column : ColumnRef)
  | oneOf (column : ColumnRef) (values : List String)
  | between (column : ColumnRef) (low high : String)
  | negated (p : Predicate)
deriving DecidableEq, Repr

/-- Predicates joined one after the other to all that stand before. -/
inductive Condition
  | test (p : Predicate)
  | both (c : Condition) (p : Predicate)
  | either (c : Condition) (p : Predicate)
deriving DecidableEq, Repr

structure Select where
  projections : List Projection
  database : String
  table : String
  condition : Option Condition
  group : List ColumnRef
  /-- The column to sort by and whether the greatest value comes first. -/
  order : Option (ColumnRef × Bool)
  limit : Option Nat
deriving DecidableEq, Repr

def commaSeparated (parts : List (List Char)) : List Char :=
  [',', ' '].intercalate parts

def ColumnRef.chars : ColumnRef → List Char
  | .star => ['*']
  | .named name => nameChars name

def Projection.chars (p : Projection) : List Char :=
  let value := match p.aggregation with
    | some a => a.label.toList ++ '(' :: (p.column.chars ++ [')'])
    | none => p.column.chars
  match p.outputName with
  | some name => value ++ " AS ".toList ++ nameChars name
  | none => value

def Predicate.chars : Predicate → List Char
  | .compare column how value =>
    column.chars ++ ' ' :: (how.label.toList ++ ' ' :: stringLiteral value)
  | .fits column .like value => column.chars ++ " LIKE ".toList ++ stringLiteral value
  | .fits column .ilike value => column.chars ++ " ILIKE ".toList ++ stringLiteral value
  | .fits column .regexp value =>
    "REGEXP_LIKE(".toList ++ column.chars ++ [',', ' '] ++ stringLiteral value ++ [')']
  | .isNull column => column.chars ++ " IS NULL".toList
  | .oneOf column values =>
    column.chars ++ " IN (".toList ++ commaSeparated (values.map stringLiteral) ++ [')']
  | .between column low high =>
    column.chars ++ " BETWEEN ".toList ++ stringLiteral low ++ " AND ".toList ++ stringLiteral high
  | .negated p => "NOT ".toList ++ p.chars

/-- No parentheses: the text is read with `AND` before `OR`. -/
def Condition.chars : Condition → List Char
  | .test p => p.chars
  | .both c p => c.chars ++ " AND ".toList ++ p.chars
  | .either c p => c.chars ++ " OR ".toList ++ p.chars

def orderChars (column : ColumnRef) (descending : Bool) : List Char :=
  " ORDER BY ".toList ++ column.chars
    ++ (if descending then " DESC" else " ASC NULLS LAST").toList

def Select.chars (s : Select) : List Char :=
  "SELECT ".toList ++ commaSeparated (s.projections.map (·.chars))
    ++ " FROM ".toList ++ nameChars s.database ++ '.' :: nameChars s.table
    ++ (match s.condition with
      | some c => " WHERE ".toList ++ c.chars
      | none => [])
    ++ (if s.group.isEmpty then [] else
      " GROUP BY ".toList ++ commaSeparated (s.group.map (·.chars)))
    ++ (match s.order with
      | some (column, descending) => orderChars column descending
      | none => [])
    ++ (match s.limit with
      | some n => " LIMIT ".toList ++ Nat.toDigits 10 n
      | none => [])

/-- The text with no blanks at its ends. -/
def Select.text (s : Select) : String :=
  String.ofList (trimBlanks s.chars)

end QueryGate
