/-
Rounding a quotient to a whole number.

The only rounding in the program is that of an exact quotient of naturals to the
nearest natural. What a format still has to decide is where a quotient goes that
lies exactly between two naturals, and that is a parameter.
-/

set_option autoImplicit false

namespace Fibonacci.Decimal

/-- Where an exact half goes. -/
inductive Tie where
  /-- To the even neighbour. -/
  | toEven
  /-- To the larger neighbour. -/
  | up
  deriving DecidableEq, Repr

/-- Whether a half above `lower` is rounded to `lower + 1`. -/
def Tie.roundsUp (tie : Tie) (lower : Nat) : Bool :=
  match tie with
  | .toEven => lower % 2 == 1
  | .up => true

/-- The natural nearest to `num / den`. -/
def nearest (tie : Tie) (num den : Nat) : Nat :=
  let lower := num / den
  let excess := 2 * (num % den)
  if excess < den then lower
  else if den < excess then lower + 1
  else if tie.roundsUp lower then lower + 1 else lower

end Fibonacci.Decimal
