/-
Reading a pattern.

A pattern is read item by item. An item is a character, an escape, a set in brackets, a
group, or a sign that repeats the item before it. Only what decides on later items is
kept: the mode in force, the groups and brackets that are open, whether there is something
to repeat, and the heights of what is closed.

The pattern is the value of a field, which ends before the first comma and the first
closing brace, so a repetition with a count in braces cannot be written.
-/
import Fibonacci.Log.Pattern.Bracket
import Fibonacci.Text.Alphanumeric

set_option autoImplicit false

namespace Fibonacci.Log.Pattern

/-! ## Groups -/

/-- A group that is being read; the whole pattern is one too. -/
structure Group where
  /-- The mode in force. -/
  mode : Mode := {}
  /-- The height of the highest of the branches before. -/
  branches : Option Nat := none
  /-- The branch that is being read. -/
  row : Row := {}
  deriving DecidableEq, Repr

/-- The height of what a group holds. -/
def Group.total (g : Group) : Nat :=
  match g.branches with
  | none => g.row.total
  | some height => max height g.row.total + 1

/-- Starts the next branch. -/
def Group.branch (g : Group) : Group :=
  { g with branches := some (max (g.branches.getD 0) g.row.total), row := {} }

/-- Puts an item into the branch. -/
def Group.add (g : Group) (height : Nat) : Group := { g with row := g.row.add height }

/-- Whether a character can stand in the name of a group. -/
def isNameChar (c : Char) : Bool :=
  Text.isAlphanumeric c || c == '_' || c == '.' || c == '[' || c == ']'

/-- Whether a text can be the name of a group. -/
def isGroupName : List Char → Bool
  | [] => false
  | c :: rest => (c == '_' || Text.isAlphabetic c) && rest.all isNameChar

/-! ## Scans -/

/-- What has been seen of a pattern. -/
structure Scan where
  /-- The innermost open group. -/
  group : Group := {}
  /-- The open groups around it, from the inside. -/
  outer : List Group := []
  /-- The open brackets, from the inside. -/
  brackets : List Bracket := []
  /-- Whether there is something to repeat. -/
  repeatable : Bool := false
  /-- The names of groups. -/
  names : List (List Char) := []
  /-- Whether there is a word boundary of Unicode. -/
  boundary : Bool := false
  deriving DecidableEq, Repr

/-- Puts an item in. -/
def Scan.add (s : Scan) (height : Nat) : Scan :=
  { s with group := s.group.add height, brackets := [], repeatable := true }

/-- Opens a group. -/
def Scan.enter (s : Scan) (mode : Mode) : Scan :=
  { s with group := { mode }, outer := s.group :: s.outer, repeatable := false }

/-- Closes a group. -/
def Scan.leave (s : Scan) : Option Scan :=
  match s.outer with
  | [] => none
  | next :: outer => some ({ s with group := next, outer }.add (s.group.total + 1))

/-! ## The start of a group -/

/-- Opens a group with a name. -/
def Scan.named (s : Scan) (text : List Char) : Option (Scan × List Char) :=
  let name := text.takeWhile (· ≠ '>')
  match text.dropWhile (· ≠ '>') with
  | _ :: rest =>
    if isGroupName name && !s.names.contains name then
      some ({ s.enter s.group.mode with names := name :: s.names }, rest)
    else none
  | [] => none

/-- Changes the mode of the innermost group. -/
def Scan.adjust (s : Scan) (text : List Char) : Scan :=
  let group := s.group.add 0
  { s with group := { group with mode := group.mode.adjusted text }, repeatable := false }

/-- Whether a character ends a list of flags. -/
def endsFlags (c : Char) : Bool := c == ':' || c == ')'

/-- Reads flags: for the group that starts with them, or, if they are all there is between
the parentheses, for what follows. -/
def Scan.flagged (s : Scan) (text : List Char) : Option (Scan × List Char) :=
  let set := text.takeWhile (!endsFlags ·)
  if !areFlags set then none
  else match text.dropWhile (!endsFlags ·) with
  | ':' :: rest => some (s.enter (s.group.mode.adjusted set), rest)
  | _ :: rest => if set = [] then none else some (s.adjust set, rest)
  | [] => none

/-- Reads the start of a group behind its parenthesis. Conditions on what surrounds a
match are refused. -/
def Scan.openGroup (s : Scan) (text : List Char) : Option (Scan × List Char) :=
  match s.group.mode.skip text with
  | '?' :: '<' :: '=' :: _ | '?' :: '<' :: '!' :: _ => none
  | '?' :: 'P' :: '<' :: rest => s.named rest
  | '?' :: '<' :: rest => s.named rest
  | '?' :: rest => s.flagged rest
  | rest => some (s.enter s.group.mode, rest)

/-! ## Items -/

/-- Drops the question mark that makes a repetition as short as can be. -/
def skipLazy : List Char → List Char
  | '?' :: rest => rest
  | text => text

/-- Repeats the last item. -/
def Scan.repeated (s : Scan) : Scan :=
  { s with group := { s.group with row := s.group.row.repeatLast } }

/-- Puts in what an escape stands for. -/
def Scan.addEscaped (s : Scan) : Escaped → Option Scan
  | .character _ => if s.group.mode.hasCases then some (s.add 0) else none
  | .set | .limit => some (s.add 0)
  | .edge => some { s.add 0 with boundary := s.boundary || s.group.mode.unicode }

/-- Reads an item outside of brackets. -/
def Scan.stepItem (s : Scan) (c : Char) (rest : List Char) : Option (Scan × List Char) :=
  match c with
  | '(' => s.openGroup rest
  | ')' => s.leave.map fun s' => (s', rest)
  | '|' => some ({ s with group := s.group.branch, repeatable := false }, rest)
  | '[' => (openBracket s.group.mode rest).map fun (b, rest') => ({ s with brackets := [b] }, rest')
  | '*' | '+' | '?' => if s.repeatable then some (s.repeated, skipLazy rest) else none
  | '\x7b' => none
  | '^' | '$' => some (s.add 0, rest)
  | '.' => if s.group.mode.unicode then some (s.add 0, rest) else none
  | '\\' => do
    let (escaped, rest') ← escape s.group.mode rest
    return (← s.addEscaped escaped, rest')
  | _ => if s.group.mode.hasCases then some (s.add 0, rest) else none

/-- Reads an item. -/
def Scan.step (s : Scan) (c : Char) (rest : List Char) : Option (Scan × List Char) :=
  match s.brackets with
  | [] => s.stepItem c rest
  | b :: outer =>
    (stepBracket s.group.mode b outer c rest).map fun
      | (.inl height, rest') => (s.add height, rest')
      | (.inr brackets, rest') => ({ s with brackets }, rest')

/-- Whether a pattern can end here. -/
def Scan.isComplete (s : Scan) : Bool :=
  s.outer.isEmpty && s.brackets.isEmpty && s.group.total ≤ maxHeight

/-- Reads at most `bound` items. -/
def Scan.run : Nat → Scan → List Char → Option Scan
  | 0, _, _ => none
  | bound + 1, s, text =>
    match s.group.mode.skip text with
    | [] => if s.isComplete then some s else none
    | c :: rest =>
      match s.step c rest with
      | none => none
      | some (s', rest') => Scan.run bound s' rest'

/-- Reads a pattern. Every item has at least one character, so the length bounds their
number. -/
def scan (text : List Char) : Option Scan := Scan.run (text.length + 1) {} text

end Fibonacci.Log.Pattern
