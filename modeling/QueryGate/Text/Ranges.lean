/-! Character properties given as sorted lists of code point intervals. -/

namespace QueryGate

/-- Closed intervals in increasing order, so that the search can stop early. -/
abbrev Ranges := List (Nat × Nat)

/-- Whether some interval holds the code point. -/
def Ranges.covers : Ranges → Nat → Bool
  | [], _ => false
  | (lo, hi) :: rest, n => if n < lo then false else if n ≤ hi then true else covers rest n

def Ranges.has (ranges : Ranges) (c : Char) : Bool :=
  ranges.covers c.toNat

end QueryGate
