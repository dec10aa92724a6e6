/-
The choice of evaluator, by name.

A name is recognised after trimming and without regard to the case of its ASCII
letters; letters outside ASCII never stand for one inside.
-/
import Fibonacci.Evaluator
import Fibonacci.Text.Blank

set_option autoImplicit false

namespace Fibonacci

/-- The evaluators a user can ask for. -/
inductive Algorithm where
  /-- The double recursion. -/
  | naive
  /-- The sliding window. -/
  | iterative
  deriving DecidableEq, Repr, Inhabited

namespace Algorithm

/-- Every algorithm, in the order in which names are tried. -/
def all : List Algorithm := [naive, iterative]

/-- The algorithm of a run that names none. -/
def default : Algorithm := naive

/-- The name, as accepted and as printed. -/
def name : Algorithm → String
  | naive => "naive"
  | iterative => "iterative"

/-- Whether a trimmed text names the algorithm in some casing. -/
def isNamed (text : List Char) (a : Algorithm) : Bool :=
  text.map Char.toLower == a.name.toList

/-- The refusal of a name that no algorithm has. -/
def unknown (text : List Char) : EvalError :=
  .invalidArgument
    ("unknown algorithm '" ++ String.ofList text ++ "' (expected 'naive' or 'iterative')")

/-- Reads an algorithm's name. -/
def parse (text : String) : Except EvalError Algorithm :=
  let trimmed := Text.trim text.toList
  match all.find? (isNamed trimmed) with
  | some a => .ok a
  | none => .error (unknown trimmed)

/-- Runs the algorithm. -/
def evaluate : Algorithm → UInt32 → Except EvalError UInt64
  | naive => Evaluator.naive
  | iterative => Evaluator.iterative

end Algorithm
end Fibonacci
