import QueryGate.Json.Writer
import QueryGate.Payload.Reading
import QueryGate.Query.Frame
/-! Frames and the outcomes of a batch as JSON. -/

namespace QueryGate

def FrameColumn.read (j : Json) : Checked FrameColumn :=
  (readRecord "ResultColumn" j).andThen fun m =>
    FrameColumn.mk <$> fieldOf m ["name"] readText
      <*> fieldOr m ["values"] [] (readList readText)

def defaultFrameName : String := "response"

def Frame.read (j : Json) : Checked Frame :=
  (readRecord "ResultFrame" j).andThen fun m =>
    Frame.mk <$> fieldOr m ["name"] defaultFrameName readText
      <*> fieldOr m ["columns"] [] (readList FrameColumn.read)

def FrameColumn.toJson (c : FrameColumn) : Json :=
  .object [("name", .string c.name), ("values", .array (c.values.map .string))]

def Frame.toJson (f : Frame) : Json :=
  .object [("name", .string f.name), ("columns", .array (f.columns.map (·.toJson)))]

/-- What became of one query of a batch. -/
structure Response where
  frames : List Frame
  error : Option String
  status : Nat
deriving DecidableEq

def Response.toJson (r : Response) : Json :=
  .object [("frames", .array (r.frames.map (·.toJson))),
    ("error", match r.error with | some e => .string e | none => .null),
    ("status", .int r.status)]

end QueryGate
