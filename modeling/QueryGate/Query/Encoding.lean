import QueryGate.Number.Power
import QueryGate.Value.Display
/-! Values as the JSON body of an answer. Numbers stay numbers and times become ISO text; a value that
has no place in JSON refuses the whole body. -/

namespace QueryGate

def serializationMessage : String := "failed to marshal JSON"

/-- A whole decimal becomes an integer and any other the nearest floating-point number. -/
def Decimal.toJson? : Decimal → Option Json
  | .finite negative digits exponent =>
    if 0 ≤ exponent then some (.int (signedNat negative (digits * tenTo exponent.toNat)))
    else (Decimal.finite negative digits exponent).toFloat?.map .float
  | d => d.toFloat?.map .float

def TimeSpan.totalSeconds (s : TimeSpan) : Float :=
  Float.ofInt s.totalMicros / 1000000.0

/-- Names that mark the inside of a record and are left out. -/
def isInnerName (key : Cell) : Bool :=
  match key with
  | .text s => "_sa".toList.isPrefixOf s.toList
  | _ => false

mutual
/-- The value with everything in it brought to the types of JSON. -/
def Cell.encodable? : Cell → Option Cell
  | .decimal d =>
    match d.toJson? with
    | some (.int n) => some (.int n)
    | some (.float x) => some (.float x)
    | _ => none
  | .moment m => some (.text (String.ofList (m.chars 'T')))
  | .date d => some (.text (String.ofList d.chars))
  | .time t => some (.text (String.ofList t.chars))
  | .span s => some (.float s.totalSeconds)
  | .bytes .fixed bs => (decodeUtf8 bs).toOption.map .text
  | .bytes _ bs => if bs.isEmpty then some (.map []) else none
  | .list items | .tuple items => do return .list (← encodableItems? items)
  | .map entries => do return .mapOf (← encodableEntries? entries)
  | .shown _ | .broken _ | .sealed => none
  | cell => some cell

def encodableItems? : List Cell → Option (List Cell)
  | [] => some []
  | item :: rest => do return (← item.encodable?) :: (← encodableItems? rest)

def encodableEntries? : List (Cell × Cell) → Option (List (Cell × Cell))
  | [] => some []
  | (key, value) :: rest =>
    if isInnerName key then encodableEntries? rest
    else do return (← key.encodable?, ← value.encodable?) :: (← encodableEntries? rest)
end

/-- The body for a value. -/
def Cell.body (cell : Cell) : Except Failure String :=
  match cell.encodable?.map Cell.toJson with
  | some (.ok j) => .ok j.spaced
  | _ => .error ⟨.serialization, serializationMessage, none⟩

end QueryGate
