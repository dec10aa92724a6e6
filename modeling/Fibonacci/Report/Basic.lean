/-
The record of one evaluation.

A report repeats what was computed and how: the index, the value, the algorithm's
name, the number of recursive calls where they were counted, and the time it took.
-/
import Fibonacci.Decimal.Binary64

set_option autoImplicit false

namespace Fibonacci

/-- What one evaluation produced. -/
structure Report where
  /-- The index evaluated. -/
  index : UInt32
  /-- The Fibonacci number at the index. -/
  value : UInt64
  /-- The name of the algorithm used. -/
  algorithm : String
  /-- The calls made by the recursion, where they were counted. -/
  calls : Option UInt64
  /-- The time taken, in milliseconds. -/
  elapsed : Binary64
  deriving DecidableEq, Repr

end Fibonacci
