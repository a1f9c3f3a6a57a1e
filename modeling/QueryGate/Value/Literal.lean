import QueryGate.Text.Literal
import QueryGate.Value.Cell
/-! The text of a value as a name or in a message, and the literal that stands for it inside lists,
tuples and maps. -/

namespace QueryGate

/-- Named arguments of a literal, those that are zero left out. -/
def namedArguments (arguments : List (String × Int)) : String :=
  ", ".intercalate
    ((arguments.filter (fun (_, n) => n ≠ 0)).map (fun (name, n) => name ++ "=" ++ intText n))

def TimeSpan.literal (s : TimeSpan) : String :=
  let arguments :=
    namedArguments [("days", s.days), ("seconds", s.seconds), ("microseconds", s.micros)]
  "datetime.timedelta(" ++ (if arguments.isEmpty then "0" else arguments) ++ ")"

def offsetLiteral (offset : Int) : String :=
  if offset = 0 then "datetime.timezone.utc"
  else "datetime.timezone(" ++ (TimeSpan.of 0 offset 0).literal ++ ")"

/-- Hour and minute always, seconds and microseconds as far as they are not zero. -/
def ClockTime.arguments (t : ClockTime) : List String :=
  let sized := [t.hour, t.minute]
    ++ (if t.second = 0 ∧ t.micro = 0 then [] else [t.second])
    ++ (if t.micro = 0 then [] else [t.micro])
  sized.map digitsText ++ (t.offset.map (fun o => "tzinfo=" ++ offsetLiteral o)).toList

def CalendarDate.arguments (d : CalendarDate) : List String :=
  [d.year, d.month, d.day].map digitsText

def callText (name : String) (arguments : List String) : String :=
  name ++ "(" ++ ", ".intercalate arguments ++ ")"

def literalBytesOf : BytesKind → List UInt8 → String
  | .fixed, bs => literalBytes bs
  | .growable, bs => callText "bytearray" [literalBytes bs]
  | .view, _ => "<memory>"

mutual
def Cell.literal : Cell → Except Fault String
  | .null => .ok "None"
  | .bool b => .ok (if b then "True" else "False")
  | .int n => shownInt n
  | .float x => .ok (floatText x)
  | .text s => .ok (literalText s)
  | .decimal d => .ok (callText "Decimal" ["'" ++ d.scientific ++ "'"])
  | .moment m => .ok (callText "datetime.datetime" (m.date.arguments ++ m.time.arguments))
  | .date d => .ok (callText "datetime.date" d.arguments)
  | .time t => .ok (callText "datetime.time" t.arguments)
  | .span s => .ok s.literal
  | .bytes kind bs => .ok (literalBytesOf kind bs)
  | .list items => do return "[" ++ ", ".intercalate (← literalItems items) ++ "]"
  | .tuple items => do
    let inside ← literalItems items
    return "(" ++ ", ".intercalate inside ++ (if inside.length = 1 then ",)" else ")")
  | .map entries => do return "\x7b" ++ ", ".intercalate (← literalEntries entries) ++ "\x7d"
  | .shown s => .ok s
  | .broken message => .error ⟨.runtime, message⟩
  | .sealed => .ok "<object>"

def literalItems : List Cell → Except Fault (List String)
  | [] => .ok []
  | item :: rest => do return (← item.literal) :: (← literalItems rest)

def literalEntries : List (Cell × Cell) → Except Fault (List String)
  | [] => .ok []
  | (key, value) :: rest => do
    return ((← key.literal) ++ ": " ++ (← value.literal)) :: (← literalEntries rest)
end

/-- A value as a plain text: a string as it is, a time with a blank after its date. -/
def Cell.plainText : Cell → Except Fault String
  | .text s => .ok s
  | .decimal d => .ok d.scientific
  | .moment m => .ok (String.ofList (m.chars ' '))
  | .date d => .ok (String.ofList d.chars)
  | .time t => .ok (String.ofList t.chars)
  | .span s => .ok s.text
  | cell => cell.literal

end QueryGate
