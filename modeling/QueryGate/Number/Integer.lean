import QueryGate.Number.Read
import QueryGate.Text.Blank
import QueryGate.Text.Digit
/-! Integers as people type them: blanks round the number, a sign, single underscores between digits,
and digits of any script. -/

namespace QueryGate

/-- The value of a decimal digit of any script. Their ranges hold whole tens. -/
def decimalValue? (c : Char) : Option Nat :=
  match digitRanges.find? (fun (low, high) => low ≤ c.toNat && c.toNat ≤ high) with
  | some (low, high) =>
    if (high + 1 - low) % 10 = 0 then some ((c.toNat - low) % 10) else none
  | none => none

/-- Digits with single underscores between them; `after` tells that a digit stands before. -/
def typedDigits? (after : Bool) : List Char → Option (List Nat)
  | [] => if after then some [] else none
  | '_' :: rest => if after then typedDigits? false rest else none
  | c :: rest => do return (← decimalValue? c) :: (← typedDigits? true rest)

def readTypedInteger (s : String) : Option Int := do
  let (negative, size) := match trimBlanks s.toList with
    | '-' :: rest => (true, rest)
    | '+' :: rest => (false, rest)
    | rest => (false, rest)
  let digits ← typedDigits? false size
  if 4300 < digits.length then none else
  let n : Nat := digits.foldl (fun n d => n * 10 + d) 0
  return if negative then -(n : Int) else n

end QueryGate
