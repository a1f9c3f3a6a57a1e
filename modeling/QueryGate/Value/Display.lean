import QueryGate.Json.Writer
import QueryGate.Text.Utf8
import QueryGate.Value.Literal
/-! The display text of a value. Lists, tuples and maps are shown as JSON; inside them a value that
JSON does not know is a string with the value's plain text. -/

namespace QueryGate

/-- A key of a map as a JSON member name. -/
def Cell.memberName : Cell → Except Fault String
  | .text s => .ok s
  | .null => .ok "null"
  | .bool b => .ok (if b then "true" else "false")
  | .int n => shownInt n
  | .float x => .ok (FloatLayout.json.text x)
  | key => .error ⟨.type, "keys must be str, int, float, bool or None, not " ++ key.typeName⟩

mutual
def Cell.toJson : Cell → Except Fault Json
  | .null => .ok .null
  | .bool b => .ok (.bool b)
  | .int n => do
    discard (shownInt n)
    return .int n
  | .float x => .ok (.float x)
  | .text s => .ok (.string s)
  | .list items | .tuple items => do return .array (← itemsToJson items)
  | .map entries => do return .object (← entriesToJson entries)
  | cell => do return .string (← cell.plainText)

def itemsToJson : List Cell → Except Fault (List Json)
  | [] => .ok []
  | item :: rest => do return (← item.toJson) :: (← itemsToJson rest)

def entriesToJson : List (Cell × Cell) → Except Fault (List (String × Json))
  | [] => .ok []
  | (key, value) :: rest => do
    let name ← key.memberName
    return (name, ← value.toJson) :: (← entriesToJson rest)
end

/-- The text that a frame shows for a value. -/
def Cell.display (nullText : String) (cell : Cell) : Except Fault String :=
  match cell with
  | .null => .ok nullText
  | .text s => .ok s
  | .bool b => .ok (if b then "true" else "false")
  | .int n => shownInt n
  | .float x => .ok (floatText x)
  | .decimal d => .ok d.plain
  | .moment m => .ok (String.ofList (m.chars 'T'))
  | .date d => .ok (String.ofList d.chars)
  | .time t => .ok (String.ofList t.chars)
  | .span s => .ok s.text
  | .bytes _ bs => .ok (decodeLossy bs)
  | .list _ | .tuple _ | .map _ => cell.toJson.map Json.spaced
  | .shown s => .ok s
  | .broken message => .error ⟨.runtime, message⟩
  | .sealed => cell.plainText

end QueryGate
