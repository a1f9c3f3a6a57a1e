/-! What is wrong with a payload: for each fault its place, its kind and its text. Reading goes on after
a fault, so that all of them are reported, in the order of the fields. -/

namespace QueryGate

inductive IssueKind
  | notString
  | notList
  | notObject
  | notRecord (name : String)
  | notBoolean
  | unclearBoolean
  | notInteger
  | unclearInteger
  | longInteger
  | fractionalInteger
  | notFinite
  | notNumber
  | unclearNumber
  | above (bound : Nat)
  | atLeast (bound : Nat)
  | notChoice (choices : List String)
  | absent
  | unchangeable
deriving DecidableEq, Repr

def IssueKind.label : IssueKind → String
  | .notString => "string_type"
  | .notList => "list_type"
  | .notObject => "dict_type"
  | .notRecord _ => "model_type"
  | .notBoolean => "bool_type"
  | .unclearBoolean => "bool_parsing"
  | .notInteger => "int_type"
  | .unclearInteger => "int_parsing"
  | .longInteger => "int_parsing_size"
  | .fractionalInteger => "int_from_float"
  | .notFinite => "finite_number"
  | .notNumber => "float_type"
  | .unclearNumber => "float_parsing"
  | .above _ => "greater_than"
  | .atLeast _ => "greater_than_equal"
  | .notChoice _ => "enum"
  | .absent => "missing"
  | .unchangeable => "frozen_instance"

/-- Choices in quotes, the last two joined by a word. -/
def choiceText : List String → String
  | [] => ""
  | [a] => "'" ++ a ++ "'"
  | [a, b] => "'" ++ a ++ "' or '" ++ b ++ "'"
  | a :: rest => "'" ++ a ++ "', " ++ choiceText rest

def IssueKind.text : IssueKind → String
  | .notString => "Input should be a valid string"
  | .notList => "Input should be a valid list"
  | .notObject => "Input should be a valid dictionary"
  | .notRecord name => "Input should be a valid dictionary or instance of " ++ name
  | .notBoolean => "Input should be a valid boolean"
  | .unclearBoolean => "Input should be a valid boolean, unable to interpret input"
  | .notInteger => "Input should be a valid integer"
  | .unclearInteger => "Input should be a valid integer, unable to parse string as an integer"
  | .longInteger => "Unable to parse input string as an integer, exceeded maximum size"
  | .fractionalInteger => "Input should be a valid integer, got a number with a fractional part"
  | .notFinite => "Input should be a finite number"
  | .notNumber => "Input should be a valid number"
  | .unclearNumber => "Input should be a valid number, unable to parse string as a number"
  | .above bound => "Input should be greater than " ++ toString bound
  | .atLeast bound => "Input should be greater than or equal to " ++ toString bound
  | .notChoice choices => "Input should be " ++ choiceText choices
  | .absent => "Field required"
  | .unchangeable => "Instance is frozen"

structure Issue where
  place : List String
  kind : IssueKind
deriving DecidableEq, Repr

/-- A value, or at least one issue. -/
inductive Checked (α : Type)
  | ok (value : α)
  | wrong (first : Issue) (others : List Issue)

namespace Checked

variable {α β : Type}

def issue (kind : IssueKind) : Checked α :=
  .wrong ⟨[], kind⟩ []

def map (f : α → β) : Checked α → Checked β
  | .ok a => .ok (f a)
  | .wrong i is => .wrong i is

/-- Applies one reading to another and keeps the issues of both. -/
def seq (f : Checked (α → β)) (a : Unit → Checked α) : Checked β :=
  match f, a () with
  | .ok f, .ok a => .ok (f a)
  | .ok _, .wrong j js => .wrong j js
  | .wrong i is, .ok _ => .wrong i is
  | .wrong i is, .wrong j js => .wrong i (is ++ j :: js)

instance : Applicative Checked where
  pure := .ok
  map := map
  seq := seq

/-- A check on a value that could be read. -/
def andThen (a : Checked α) (f : α → Checked β) : Checked β :=
  match a with
  | .ok a => f a
  | .wrong i is => .wrong i is

/-- The reading of a part: its issues lie under the part's name. -/
def under (name : String) : Checked α → Checked α
  | .ok a => .ok a
  | .wrong i is =>
    let inside := fun (i : Issue) => { i with place := name :: i.place }
    .wrong (inside i) (is.map inside)

/-- Readings of the items of a list, each under its number. -/
def each (read : β → Checked α) (index : Nat) : List β → Checked (List α)
  | [] => .ok []
  | item :: rest => List.cons <$> ((read item).under (toString index)) <*> each read (index + 1) rest

end Checked

end QueryGate
