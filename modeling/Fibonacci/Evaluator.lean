/-
The evaluators.

Two ways to the same number, both in wrapping sixty-four bit words: the double
recursion of the definition, and a window of two consecutive terms slid along the
sequence. The recursion also exists in a form that counts its own calls, with the
counter passed through both sub-calls. All three refuse an index above `maxIndex`
before any work is done.

The recursions are stated on naturals, where the two smaller indices are visible
subterms; the words appear only in the results.
-/
import Fibonacci.EvalError

set_option autoImplicit false

namespace Fibonacci.Evaluator

/-! ## The double recursion -/

/-- The defining recursion, in words. -/
def recursive : Nat → UInt64
  | 0 => 0
  | 1 => 1
  | n + 2 => recursive (n + 1) + recursive n

/-- A value together with the number of calls made so far. -/
structure Tally where
  /-- The value computed. -/
  value : UInt64
  /-- The counter after the computation. -/
  calls : UInt64
  deriving DecidableEq, Repr

/-- The defining recursion with a call counter: every call adds one to the counter
it is given, and the larger index is evaluated first. -/
def recursiveFrom : Nat → UInt64 → Tally
  | 0, counter => ⟨0, counter + 1⟩
  | 1, counter => ⟨1, counter + 1⟩
  | n + 2, counter =>
    let left := recursiveFrom (n + 1) (counter + 1)
    let right := recursiveFrom n left.calls
    ⟨left.value + right.value, right.calls⟩

/-! ## The sliding window -/

/-- Two consecutive terms of the sequence. -/
structure Window where
  /-- The earlier term. -/
  previous : UInt64
  /-- The later term. -/
  current : UInt64
  deriving DecidableEq, Repr

/-- The window one place further. -/
def Window.next (w : Window) : Window := ⟨w.current, w.previous + w.current⟩

/-- The window after a number of moves, from the terms at zero and one. -/
def Window.after : Nat → Window
  | 0 => ⟨0, 1⟩
  | moves + 1 => (Window.after moves).next

theorem Window.after_succ (moves : Nat) :
    Window.after (moves + 1) = (Window.after moves).next := rfl

/-! ## Range check and entry points -/

/-- Lets through the indices whose Fibonacci number fits. -/
def checkRange (n : UInt32) : Except EvalError Unit :=
  if n > maxIndex then .error (.overflow n.toUInt64) else .ok ()

/-- The Fibonacci number at `n` by the double recursion. -/
def naive (n : UInt32) : Except EvalError UInt64 := do
  checkRange n
  return recursive n.toNat

/-- The Fibonacci number at `n` by the double recursion, with the number of calls
it took. -/
def counted (n : UInt32) : Except EvalError Tally := do
  checkRange n
  return recursiveFrom n.toNat 0

/-- The Fibonacci number at `n` by the sliding window. An index below two is its
own answer; any other takes one move fewer than the index. -/
def iterative (n : UInt32) : Except EvalError UInt64 := do
  checkRange n
  if n < 2 then
    return n.toUInt64
  else
    return (Window.after (n.toNat - 1)).current

/-! ## The closed form for the number of calls -/

/-- How many calls the double recursion makes at `n`: twice the next Fibonacci
number less one, or nothing where a step towards it leaves the machine word. -/
def expectedCalls (n : UInt32) : Option UInt64 :=
  if n.toNat + 1 < UInt32.size then
    match iterative (n + 1) with
    | .ok next => if next.toNat * 2 < UInt64.size then some (next * 2 - 1) else none
    | .error _ => none
  else
    none

end Fibonacci.Evaluator
