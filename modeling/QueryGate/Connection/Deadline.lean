/-! Deadlines. Time is a number of seconds of any type that can be added and compared. -/

namespace QueryGate

/-- A point in time. The label is the number of seconds that was allowed, as it is written in messages. -/
structure Deadline (T : Type) where
  label : String
  expiresAt : T

variable {T : Type} [Add T] [Sub T] [OfNat T 0] [LT T] [LE T] [DecidableLT T] [DecidableLE T]

def Deadline.after (label : String) (timeout now : T) : Deadline T :=
  ⟨label, now + timeout⟩

/-- The time left, never less than none. -/
def Deadline.remaining (d : Deadline T) (now : T) : T :=
  if 0 < d.expiresAt - now then d.expiresAt - now else 0

def Deadline.expired (d : Deadline T) (now : T) : Bool :=
  d.remaining now ≤ 0

end QueryGate
