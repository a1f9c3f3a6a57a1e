import QueryGate.Connection.Handle
import QueryGate.Json.Value
/-! Whether the engine can be reached. A failure is reported, not raised. -/

namespace QueryGate

variable {σ : Type}

def healthLogger : String := "health"

structure Health where
  healthy : Bool
  message : String
  /-- The state of the circuit breaker. -/
  circuit : String
deriving DecidableEq

def Health.status (h : Health) : String :=
  if h.healthy then "ok" else "error"

def Health.toJson (h : Health) : Json :=
  .object [("status", .string h.status), ("message", .string h.message),
    ("breaker", .string h.circuit)]

def healthyMessage : String := "Connection to the SQL warehouse is working"

def checkHealth (handle : Handle σ) (timeout : Amount) : Act σ Health := do
  match ← Act.caught (handle.ping timeout) with
  | .ok () => return ⟨true, healthyMessage, handle.circuit (← Act.outside)⟩
  | .error (.failure f) =>
    Act.log .warning healthLogger ("Health check failed: " ++ f.safe)
    return ⟨false, "Connection failed: " ++ f.safe, handle.circuit (← Act.outside)⟩
  | .error r => Act.raise r

end QueryGate
