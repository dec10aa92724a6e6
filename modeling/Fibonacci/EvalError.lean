/-
Why an evaluation is refused.

There are two causes: an argument that is not acceptable at all, told in words, and
an index whose Fibonacci number does not fit in sixty-four bits. The second names
the index, which can itself be any sixty-four bit number.
-/
import Fibonacci.Text.Numeral

set_option autoImplicit false

namespace Fibonacci

/-- The largest index whose Fibonacci number fits in sixty-four bits. -/
def maxIndex : UInt32 := 93

/-- The causes for which a request is refused. -/
inductive EvalError where
  /-- The argument is not acceptable, for the reason given. -/
  | invalidArgument (reason : String)
  /-- The Fibonacci number at `index` needs more than sixty-four bits. -/
  | overflow (index : UInt64)
  deriving DecidableEq, Repr, Inhabited

/-- The text shown to the user. -/
def EvalError.message : EvalError → String
  | .invalidArgument reason => "invalid argument: " ++ reason
  | .overflow index =>
    "fib(" ++ Text.numeral index.toNat ++ ") overflows a 64-bit unsigned integer " ++
      "(largest supported n is " ++ Text.numeral maxIndex.toNat ++ ")"

end Fibonacci
