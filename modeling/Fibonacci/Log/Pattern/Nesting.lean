/-
How deep a pattern is nested.

A pattern is a tree. Characters, escapes and named sets are its leaves. Everything else is
a level above its parts: a group, a set in brackets, a repetition, several parts in a row,
a choice between branches. The height is computed while a pattern is read, from the heights
of the parts, so the tree itself is never built.
-/

set_option autoImplicit false

namespace Fibonacci.Log.Pattern

/-- The greatest height of a pattern. -/
def maxHeight : Nat := 250

/-- Parts that stand in a row. -/
structure Row where
  /-- How many there are. -/
  count : Nat := 0
  /-- The height of the highest. -/
  height : Nat := 0
  /-- The height of the last. -/
  last : Nat := 0
  deriving DecidableEq, Repr

/-- Puts a part at the end. -/
def Row.add (row : Row) (height : Nat) : Row := ⟨row.count + 1, max row.height height, height⟩

/-- Repeats the last part, which puts a level above it. -/
def Row.repeatLast (row : Row) : Row :=
  { row with height := max row.height (row.last + 1), last := row.last + 1 }

/-- The height of the whole row; a row of one part is that part. -/
def Row.total (row : Row) : Nat := if row.count ≤ 1 then row.height else row.height + 1

end Fibonacci.Log.Pattern
