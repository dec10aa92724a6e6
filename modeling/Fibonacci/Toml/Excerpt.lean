/-
Showing a place in a text.

A fault is shown with the line it is on: the number of the line and of the column, the
line itself, and carets under the stretch. Columns count characters, carets count
bytes, and there is at least one caret and none beyond the end of the line.
-/
import Fibonacci.Text.Bytes
import Fibonacci.Text.Numeral
import Fibonacci.Text.Split
import Fibonacci.Toml.Reader

set_option autoImplicit false

namespace Fibonacci.Toml

/-- A stretch as it is shown to the user. -/
structure Excerpt where
  /-- The number of the line, from one. -/
  line : Nat
  /-- The characters before the stretch on its line. -/
  column : Nat
  /-- The line, without its line feed. -/
  content : List Char
  /-- The bytes of the stretch that are on the line, at least one. -/
  width : Nat
  deriving DecidableEq, Repr

/-- Finds the line of a stretch. -/
def Excerpt.of (text : List Char) (span : Span) : Excerpt :=
  let before := Text.splitAt '\n' (text.take (text.length - span.start))
  let column := (before.getLast?.getD []).length
  let content := ((Text.splitAt '\n' text)[before.length - 1]?).getD []
  let stretch := (text.drop (text.length - span.start)).take (span.start - span.stop)
  { line := before.length
    column := column
    content := content
    width := max 1 (min (Text.byteCount stretch) (Text.byteCount content - column)) }

/-- A run of one character. -/
def run (n : Nat) (c : Char) : String := String.ofList (List.replicate n c)

/-- The fault with its place and what is wrong there, every line ended. -/
def Excerpt.render (e : Excerpt) (fault : String) : String :=
  let number := Text.numeral e.line
  let gutter := run (number.length + 1) ' ' ++ "|"
  "TOML parse error at line " ++ number ++ ", column " ++ Text.numeral (e.column + 1) ++ "\n" ++
    gutter ++ "\n" ++
    number ++ " | " ++ String.ofList e.content ++ "\n" ++
    gutter ++ run (e.column + 1) ' ' ++ run e.width '^' ++ "\n" ++
    fault ++ "\n"

end Fibonacci.Toml
