import QueryGate.Payload.Reading
import QueryGate.Query.Visual
import QueryGate.Shape
/-! Requests for one query, read from a payload. A member may be called by its name on the wire or by
its plain name; members of other names are left out. -/

namespace QueryGate

structure Request where
  refId : String
  statement : Option String
  shape : OutputShape
  visual : Option VisualQuery
deriving DecidableEq

def readOptionalText : Json → Checked (Option String) :=
  readOptional readText

def FieldSelection.read (j : Json) : Checked FieldSelection :=
  (readRecord "FieldSelection" j).andThen fun m =>
    FieldSelection.mk <$> fieldOr m ["column"] none readOptionalText
      <*> fieldOr m ["aggregation"] none readOptionalText
      <*> fieldOr m ["alias"] none readOptionalText

def FilterCondition.read (j : Json) : Checked FilterCondition :=
  (readRecord "FilterCondition" j).andThen fun m =>
    FilterCondition.mk <$> fieldOr m ["column"] none readOptionalText
      <*> fieldOr m ["operator"] none readOptionalText
      <*> fieldOr m ["value"] none readOptionalText
      <*> fieldOr m ["condition"] none readOptionalText

def readLimit : Json → Checked (Option Nat) :=
  readOptional fun j => (readIntegerFrom 0 j).map Int.toNat

def VisualQuery.read (j : Json) : Checked VisualQuery :=
  (readRecord "VisualQuery" j).andThen fun m =>
    VisualQuery.mk <$> fieldOr m ["database"] none readOptionalText
      <*> fieldOr m ["table"] none readOptionalText
      <*> fieldOr m ["fields"] [] (readList FieldSelection.read)
      <*> fieldOr m ["filters"] [] (readList FilterCondition.read)
      <*> fieldOr m ["groupBy", "group_by"] [] (readList readText)
      <*> fieldOr m ["orderBy", "order_by"] none readOptionalText
      <*> fieldOr m ["orderDirection", "order_direction"] none readOptionalText
      <*> fieldOr m ["limit"] none readLimit
      <*> fieldOr m ["enableFilter", "enable_filter"] false readBoolean
      <*> fieldOr m ["enableGroup", "enable_group"] false readBoolean
      <*> fieldOr m ["enableOrder", "enable_order"] false readBoolean

/-- Nothing or an empty text asks for a table. -/
def readShape : Json → Checked OutputShape
  | .null => .ok .table
  | .string "" => .ok .table
  | .string s =>
    match OutputShape.ofText? s with
    | some shape => .ok shape
    | none => .issue (.notChoice [OutputShape.table.label, OutputShape.timeSeries.label])
  | _ => .issue (.notChoice [OutputShape.table.label, OutputShape.timeSeries.label])

def Request.read (j : Json) : Checked Request :=
  (readRecord "QueryRequest" j).andThen fun m =>
    Request.mk <$> fieldOr m ["refId", "ref_id"] "A" readText
      <*> fieldOr m ["queryText", "raw_statement"] none readOptionalText
      <*> fieldOr m ["format", "output_shape"] .table readShape
      <*> fieldOr m ["visual"] none (readOptional VisualQuery.read)

/-! Requests as they are written back. -/

def optionalJson : Option String → Json
  | some s => .string s
  | none => .null

def FieldSelection.toJson (f : FieldSelection) : Json :=
  .object [("column", optionalJson f.column), ("aggregation", optionalJson f.aggregation),
    ("alias", optionalJson f.outputName)]

def FilterCondition.toJson (f : FilterCondition) : Json :=
  .object [("column", optionalJson f.column), ("operator", optionalJson f.operator),
    ("value", optionalJson f.value), ("condition", optionalJson f.condition)]

/-- Writes the members under their names on the wire, or under their plain names. -/
def VisualQuery.toJson (wire : Bool) (q : VisualQuery) : Json :=
  let name (onWire plain : String) := if wire then onWire else plain
  .object [("database", optionalJson q.database), ("table", optionalJson q.table),
    ("fields", .array (q.fields.map (·.toJson))),
    ("filters", .array (q.filters.map (·.toJson))),
    (name "groupBy" "group_by", .array (q.groupBy.map .string)),
    (name "orderBy" "order_by", optionalJson q.orderBy),
    (name "orderDirection" "order_direction", optionalJson q.orderDirection),
    ("limit", match q.limit with | some n => .int n | none => .null),
    (name "enableFilter" "enable_filter", .bool q.enableFilter),
    (name "enableGroup" "enable_group", .bool q.enableGroup),
    (name "enableOrder" "enable_order", .bool q.enableOrder)]

def Request.toJson (wire : Bool) (r : Request) : Json :=
  let name (onWire plain : String) := if wire then onWire else plain
  .object [(name "refId" "ref_id", .string r.refId),
    (name "queryText" "raw_statement", optionalJson r.statement),
    (name "format" "output_shape", .string r.shape.label),
    ("visual", match r.visual with | some v => v.toJson wire | none => .null)]

end QueryGate
