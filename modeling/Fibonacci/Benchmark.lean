/-
The benchmark.

A fixed table of cases runs both evaluators at indices whose values are known; a case
passes if it gives the known value. The recursive cases take exponential time, so the
caller sets the largest index for them. Two cases repeat one index a thousand times.

A finished case is told on one line: the name, the value or the error, and the time in
milliseconds, with colons between them.
-/
import Fibonacci.Algorithm

set_option autoImplicit false

namespace Fibonacci.Benchmark

/-! ## Results -/

/-- What came of one case. -/
structure Result where
  /-- The name of the case. -/
  name : String
  /-- The value or the error that the evaluator gave. -/
  outcome : Except EvalError UInt64
  /-- The known value. -/
  expected : UInt64
  /-- The time taken, in whole milliseconds. -/
  elapsed : Nat

/-- Whether the evaluator gave the known value. -/
def Result.passed (r : Result) : Bool :=
  match r.outcome with
  | .ok value => value == r.expected
  | .error _ => false

/-- An outcome as it is told. -/
def outcomeText : Except EvalError UInt64 → String
  | .ok value => Text.numeral value.toNat
  | .error cause => "error(" ++ cause.message ++ ")"

/-- The outcome of a case as it is told. -/
def Result.outcomeText (r : Result) : String := Benchmark.outcomeText r.outcome

/-- The line of a case. -/
def Result.line (r : Result) : String :=
  "BENCH:fibonacci:" ++ r.name ++ ":" ++ r.outcomeText ++ ":" ++ Text.numeral r.elapsed

/-- The line that follows for a case that failed. -/
def Result.complaint (r : Result) : String :=
  "ERROR: " ++ r.name ++ " expected " ++ Text.numeral r.expected.toNat ++ ", got " ++ r.outcomeText

/-! ## Cases -/

/-- An evaluator: any function from indices to values or errors. -/
abbrev Evaluator := UInt32 → Except EvalError UInt64

/-- Evaluates the same index again and again, up to the first error; `outcome` is what
stands before the first round. -/
def repeated (f : Evaluator) (n : UInt32) : Nat → Except EvalError UInt64 → Except EvalError UInt64
  | 0, outcome => outcome
  | rounds + 1, _ =>
    match f n with
    | .ok value => repeated f n rounds (.ok value)
    | .error cause => .error cause

/-- Evaluates an index once, or as often as asked for. -/
def evaluated (f : Evaluator) (n : UInt32) : Option Nat → Except EvalError UInt64
  | none => f n
  | some rounds => repeated f n rounds (.ok 0)

/-- A case of the benchmark. -/
structure Case where
  /-- The algorithm to run. -/
  algorithm : Algorithm
  /-- The index to run it at. -/
  n : UInt32
  /-- The known value there. -/
  expected : UInt64
  /-- How often to repeat it, for a case that does so. -/
  rounds : Option Nat := none
  deriving DecidableEq, Repr

/-- The name of a case: what is run, at which index, how often. -/
def Case.name (c : Case) : String :=
  "fib-" ++ c.algorithm.name ++ "-" ++ Text.numeral c.n.toNat ++
    match c.rounds with
    | none => ""
    | some rounds => "-x" ++ Text.numeral rounds

/-! ## The suite -/

/-- The largest index for the recursion, unless another is given. -/
def defaultMaxNaive : UInt32 := 35

/-- The cases of the recursion. -/
def naiveCases : List Case :=
  [⟨.naive, 20, 6765, none⟩, ⟨.naive, 30, 832040, none⟩, ⟨.naive, 35, 9227465, none⟩,
   ⟨.naive, 40, 102334155, none⟩]

/-- The cases of the sliding window. -/
def iterativeCases : List Case :=
  [⟨.iterative, 30, 832040, none⟩, ⟨.iterative, 50, 12586269025, none⟩,
   ⟨.iterative, 70, 190392490709135, none⟩, ⟨.iterative, 93, 12200160415121876738, none⟩]

/-- The repeated case of the recursion. -/
def naiveRepeated : Case := ⟨.naive, 20, 6765, some 1000⟩

/-- The repeated case of the sliding window. -/
def iterativeRepeated : Case := ⟨.iterative, 20, 6765, some 1000⟩

/-- The cases to run, in order: those of the recursion up to the largest index allowed
for it, those of the sliding window, and the repeated ones. -/
def suite (maxNaive : UInt32) : List Case :=
  naiveCases.filter (·.n ≤ maxNaive) ++ iterativeCases ++
    [naiveRepeated].filter (·.n ≤ maxNaive) ++ [iterativeRepeated]

end Fibonacci.Benchmark
