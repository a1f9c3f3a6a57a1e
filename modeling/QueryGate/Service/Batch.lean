import QueryGate.Service.Query
import QueryGate.Value.Literal
/-! Serving a batch of queries, each by itself: what becomes of one is not changed by the others. -/

namespace QueryGate

mutual
def Json.toCell : Json → Cell
  | .null => .null
  | .bool b => .bool b
  | .int n => .int n
  | .float x => .float x
  | .string s => .text s
  | .array items => .list (cellsOfItems items)
  | .object members => .map (cellsOfMembers members)

def cellsOfItems : List Json → List Cell
  | [] => []
  | item :: rest => item.toCell :: cellsOfItems rest

def cellsOfMembers : List (String × Json) → List (Cell × Cell)
  | [] => []
  | (name, value) :: rest => (.text name, value.toCell) :: cellsOfMembers rest
end

/-- Whether a value counts as given: it is neither nothing, nor zero, nor empty. -/
def Json.isFilled : Json → Bool
  | .null => false
  | .bool b => b
  | .int n => n ≠ 0
  | .float x => !(x == 0.0)
  | .string s => !s.isEmpty
  | .array items => !items.isEmpty
  | .object members => !members.isEmpty

/-- The key of a query: its reference, or its place in the batch. -/
def queryKey (index : Nat) (raw : Json) : Except Fault String :=
  match raw.field? "refId" with
  | some ref => if ref.isFilled then ref.toCell.plainText else .ok (toString index)
  | none => .ok (toString index)

variable {σ : Type}

def failedResponse (f : Failure) : Response :=
  ⟨[], some f.safe, f.status⟩

/-- The outcome of a valid request; no error leaves it. -/
def respond (plan : ServicePlan) (handle : Handle σ) (key : String) (r : Request) :
    Act σ Response := do
  match ← Act.caught (executeQuery plan handle r) with
  | .ok frame => return ⟨[frame], none, 200⟩
  | .error (.failure f) =>
    Act.log .warning queryLogger ("Query " ++ key ++ " failed (" ++ f.code.label ++ "): " ++ f.safe)
    return failedResponse f
  | .error (.fault f) =>
    Act.log .error queryLogger ("Query " ++ key ++ " crashed: " ++ f.message)
    return ⟨[], some ("Internal error: " ++ f.message), 500⟩

/-- The outcome of one raw query, or nothing for a query that asks for nothing. -/
def serveRaw (plan : ServicePlan) (handle : Handle σ) (key : String) (raw : Json) :
    Act σ (Option Response) := do
  match Request.read raw with
  | .wrong i _ =>
    Act.log .warning queryLogger ("Invalid payload for query " ++ key ++ ": " ++ i.kind.text)
    return some (failedResponse ⟨.invalidPayload, "json unmarshal: " ++ i.kind.text, none⟩)
  | .ok r =>
    if r.hasStatement || r.visual.isSome then return some (← respond plan handle key r)
    else return none

/-- Serves the queries in order; a later outcome under the same key takes the place of an earlier. -/
def serveBatch (plan : ServicePlan) (handle : Handle σ) (index : Nat) (done : Members Response) :
    List Json → Act σ (Members Response)
  | [] => return done
  | raw :: rest => do
    let key ← Act.given ((queryKey index raw).mapError Raised.fault)
    match ← serveRaw plan handle key raw with
    | some response => serveBatch plan handle (index + 1) (done.put key response) rest
    | none => serveBatch plan handle (index + 1) done rest

def queryData (plan : ServicePlan) (handle : Handle σ) (queries : List Json) :
    Act σ (Members Response) :=
  serveBatch plan handle 0 [] queries

end QueryGate
