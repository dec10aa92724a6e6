/-
A report in the form that was asked for.

A file receives the text as it is. Standard error receives it as whole lines: the
blanks at its end give way to one line end, which for lines is what was there and for
JSON is one more character.
-/
import Fibonacci.Report.Human
import Fibonacci.Report.Json
import Fibonacci.Report.Spec

set_option autoImplicit false

namespace Fibonacci.Report

/-- The report in a given form. -/
def renderChars (r : Report) : Format → List Char
  | .human => Human.text r
  | .json => Json.text r

/-- The report in a given form, as a string. -/
def render (r : Report) (format : Format) : String := String.ofList (r.renderChars format)

/-- The report as it goes to standard error. -/
def renderLine (r : Report) (format : Format) : String :=
  String.ofList (Text.trimEnd (r.renderChars format) ++ ['\n'])

end Fibonacci.Report
