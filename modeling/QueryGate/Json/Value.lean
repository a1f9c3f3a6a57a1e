/-! JSON values. Integers of any size are kept apart from floating-point numbers, and the members of
an object keep the order in which their names were first written. -/

namespace QueryGate

inductive Json
  | null
  | bool (b : Bool)
  | int (n : Int)
  | float (x : Float)
  | string (s : String)
  | array (items : List Json)
  | object (members : List (String × Json))
deriving Inhabited

/-- Members by name, in order of first appearance. -/
abbrev Members (α : Type) := List (String × α)

/-- Replaces the value of a name in place, or adds the name at the end. -/
def Members.put {α : Type} : Members α → String → α → Members α
  | [], name, value => [(name, value)]
  | (n, v) :: rest, name, value =>
    if n = name then (n, value) :: rest else (n, v) :: put rest name value

def Members.find? {α : Type} (members : Members α) (name : String) : Option α :=
  List.lookup name members

def Members.ofList {α : Type} (pairs : List (String × α)) : Members α :=
  pairs.foldl (fun members (name, value) => members.put name value) []

def Json.field? (j : Json) (name : String) : Option Json :=
  match j with
  | .object members => Members.find? members name
  | _ => none

end QueryGate
