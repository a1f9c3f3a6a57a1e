import QueryGate.Failure
import QueryGate.Number.Power
import QueryGate.Number.Shortest
import QueryGate.Value.Calendar
import QueryGate.Value.Decimal
/-! One value of a result row. Values nest: lists, tuples, and maps whose keys are values again. -/

namespace QueryGate

/-- How a byte string is held by the driver. -/
inductive BytesKind
  | fixed
  | growable
  | view
deriving DecidableEq, Repr

inductive Cell
  | null
  | bool (b : Bool)
  | int (n : Int)
  | float (x : Float)
  | text (s : String)
  | decimal (d : Decimal)
  | moment (m : Moment)
  | date (d : CalendarDate)
  | time (t : ClockTime)
  | span (s : TimeSpan)
  | bytes (kind : BytesKind) (bs : List UInt8)
  | list (items : List Cell)
  | tuple (items : List Cell)
  | map (entries : List (Cell × Cell))
  /-- A value of which only the text is known. -/
  | shown (s : String)
  /-- A value whose text cannot be had; asking for it gives this error. -/
  | broken (message : String)
  /-- A value that no encoding takes. -/
  | sealed
deriving Inhabited

/-- A number as an exact fraction, or an infinity. -/
inductive ExactNumber
  | finite (numerator : Int) (denominator : Nat)
  | infinite (negative : Bool)

def ExactNumber.same : ExactNumber → ExactNumber → Bool
  | .finite a b, .finite c d => a * d = c * b
  | .infinite a, .infinite b => a = b
  | _, _ => false

def signedNat (negative : Bool) (n : Nat) : Int :=
  if negative then -(n : Int) else n

def scaledNumber (negative : Bool) (digits base : Nat) (exponent : Int) : ExactNumber :=
  .finite (signedNat negative (digits * Nat.pow base exponent.toNat))
    (Nat.pow base (-exponent).toNat)

/-- The number that a cell stands for. A truth value counts as zero or one. -/
def Cell.number? : Cell → Option ExactNumber
  | .bool b => some (.finite (if b then 1 else 0) 1)
  | .int n => some (.finite n 1)
  | .float x =>
    match floatParts x with
    | .nan => none
    | .infinite negative => some (.infinite negative)
    | .zero _ => some (.finite 0 1)
    | .finite negative v => some (scaledNumber negative v.mantissa 2 v.exponent)
  | .decimal (.finite negative digits exponent) => some (scaledNumber negative digits 10 exponent)
  | .decimal (.infinite negative) => some (.infinite negative)
  | _ => none

mutual
/-- Whether two values are the same key of a map. Numbers are compared by what they stand for. -/
def Cell.sameKey (a b : Cell) : Bool :=
  match a, b with
  | .null, .null => true
  | .text s, .text t => s = t
  | .moment s, .moment t => s = t
  | .date s, .date t => s = t
  | .time s, .time t => s = t
  | .span s, .span t => s = t
  | .bytes _ s, .bytes _ t => s = t
  | .tuple s, .tuple t => sameKeys s t
  | a, b =>
    match a.number?, b.number? with
    | some x, some y => x.same y
    | _, _ => false
termination_by structural a

def sameKeys (xs ys : List Cell) : Bool :=
  match xs, ys with
  | [], [] => true
  | x :: xs, y :: ys => x.sameKey y && sameKeys xs ys
  | _, _ => false
termination_by structural xs
end

/-- Puts an entry into a map: the first key of its kind stays, the last value counts. -/
def putEntry (key value : Cell) : List (Cell × Cell) → List (Cell × Cell)
  | [] => [(key, value)]
  | (k, v) :: rest =>
    if k.sameKey key then (k, value) :: rest else (k, v) :: putEntry key value rest

def Cell.mapOf (entries : List (Cell × Cell)) : Cell :=
  .map (entries.foldl (fun done (k, v) => putEntry k v done) [])

/-- A value as an error message calls it. -/
def Cell.typeName : Cell → String
  | .null => "NoneType"
  | .bool _ => "bool"
  | .int _ => "int"
  | .float _ => "float"
  | .text _ => "str"
  | .decimal _ => "decimal.Decimal"
  | .moment _ => "datetime.datetime"
  | .date _ => "datetime.date"
  | .time _ => "datetime.time"
  | .span _ => "datetime.timedelta"
  | .bytes .fixed _ => "bytes"
  | .bytes .growable _ => "bytearray"
  | .bytes .view _ => "memoryview"
  | .list _ => "list"
  | .tuple _ => "tuple"
  | .map _ => "dict"
  | .shown _ | .broken _ | .sealed => "object"

/-- The length in digits beyond which an integer has no text. -/
def maxShownDigits : Nat := 4300

def shownInt (n : Int) : Except Fault String :=
  if tenTo maxShownDigits ≤ n.natAbs then
    .error ⟨.value, "Exceeds the limit (4300 digits) for integer string conversion; use "
      ++ "sys.set_int_max_str_digits() to increase the limit"⟩
  else .ok (intText n)

end QueryGate
