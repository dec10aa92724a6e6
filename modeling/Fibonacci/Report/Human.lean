/-
A report as labelled lines.

A header, then one line for each item, the values in one column. The line for the
calls is there exactly when they were counted. The time has three places.
-/
import Fibonacci.Decimal.Layout
import Fibonacci.Report.Basic

set_option autoImplicit false

namespace Fibonacci.Report.Human

/-- The first line. -/
def header : List Char := "=== fib report ===".toList

/-- The time in milliseconds, with its unit. -/
def duration (x : Binary64) : List Char := x.fixed 3 ++ " ms".toList

/-- The lines, each without its end. -/
def lines (r : Report) : List (List Char) :=
  [header,
   "  n:          ".toList ++ Text.digits r.index.toNat,
   "  value:      ".toList ++ Text.digits r.value.toNat,
   "  algorithm:  ".toList ++ r.algorithm.toList] ++
  (r.calls.map fun calls => "  calls:      ".toList ++ Text.digits calls.toNat).toList ++
  ["  elapsed:    ".toList ++ duration r.elapsed]

/-- The report as a text, every line ended. -/
def text (r : Report) : List Char := (lines r).flatMap (· ++ ['\n'])

end Fibonacci.Report.Human
