/-
Sets in brackets.

A set lists characters, ranges, escapes, named sets and sets in brackets, and may combine
lists by an intersection, a difference or a symmetric difference, each written with a sign
twice. The first closing bracket and the first dashes stand for themselves.

Where ASCII alone is meant, no set may be the complement of another: it would hold parts
of characters.
-/
import Fibonacci.Log.Pattern.Escape
import Fibonacci.Log.Pattern.Nesting

set_option autoImplicit false

namespace Fibonacci.Log.Pattern

/-! ## Open sets -/

/-- A set that is being read. -/
structure Bracket where
  /-- The height of the lists that are combined already. -/
  combined : Option Nat := none
  /-- The list that is being read. -/
  row : Row := {}
  deriving DecidableEq, Repr

/-- The height of what the brackets hold. Lists are combined from the left. -/
def Bracket.total (b : Bracket) : Nat :=
  match b.combined with
  | none => b.row.total
  | some height => max height b.row.total + 1

/-- Puts a part into the list. -/
def Bracket.add (b : Bracket) (height : Nat) : Bracket := { b with row := b.row.add height }

/-- Starts the next list. -/
def Bracket.combine (b : Bracket) : Bracket := { combined := some b.total }

/-! ## The start of a set -/

/-- Drops dashes with what does not count behind them, and puts each into the list. -/
def leadingDashes (mode : Mode) (b : Bracket) (inComment : Bool) : List Char → Bracket × List Char
  | [] => (b, [])
  | c :: rest =>
    let skips := mode.spaced && b.row.count != 0
    if inComment then leadingDashes mode b (c ≠ '\n') rest
    else if c = '-' then leadingDashes mode (b.add 0) false rest
    else if skips && Text.isBlank c then leadingDashes mode b false rest
    else if skips && c = '#' then leadingDashes mode b true rest
    else (b, c :: rest)

/-- Reads the sign of a complement. -/
def complement (mode : Mode) : List Char → Option (List Char)
  | '^' :: rest => if mode.unicode then some (mode.skip rest) else none
  | text => some text

/-- Reads the start of a set behind its bracket. -/
def openBracket (mode : Mode) (text : List Char) : Option (Bracket × List Char) := do
  let body ← complement mode (mode.skip text)
  let (b, rest) ← match leadingDashes mode {} false body with
    | (⟨none, ⟨0, _, _⟩⟩, ']' :: rest) => some (({} : Bracket).add 0, rest)
    | opened => some opened
  if b.row.count = 0 || mode.hasCases then some (b, rest) else none

/-! ## Named sets -/

/-- The names of sets. -/
def setNames : List String :=
  ["alnum", "alpha", "ascii", "blank", "cntrl", "digit", "graph", "lower", "print", "punct",
   "space", "upper", "word", "xdigit"]

/-- Reads the name of a set up to its end. -/
def setName (text : List Char) : Option (List Char) :=
  match text.dropWhile (· ≠ ':') with
  | ':' :: ']' :: rest =>
    if setNames.any (·.toList == text.takeWhile (· ≠ ':')) then some rest else none
  | _ => none

/-- Reads a named set behind its bracket, and says whether its complement is meant. -/
def namedSet : List Char → Option (Bool × List Char)
  | ':' :: '^' :: rest => (setName rest).map ((true, ·))
  | ':' :: rest => (setName rest).map ((false, ·))
  | _ => none

/-! ## Members -/

/-- Reads a member: a character, or nothing for an escape that stands for a set. -/
def member (mode : Mode) : List Char → Option (Option Char × List Char)
  | [] => none
  | '\\' :: rest =>
    match escape mode rest with
    | some (.character c, rest') => some (some c, rest')
    | some (.set, rest') => some (none, rest')
    | _ => none
  | c :: rest => some (some c, rest)

/-- Reads a member or a range. A dash before another one, or before the closing bracket,
makes no range. -/
def memberOrRange (mode : Mode) (text : List Char) : Option (List Char) := do
  let (first, rest) ← member mode text
  if !first.all mode.admits then none
  match mode.skip rest with
  | '-' :: behind =>
    match mode.skip behind with
    | ']' :: _ | '-' :: _ => some ('-' :: behind)
    | behind =>
      match first, ← member mode behind with
      | some low, (some high, rest') => if low ≤ high && mode.admits high then some rest' else none
      | _, _ => none
  | rest => some rest

/-! ## One item -/

/-- Opens a set inside a set, or reads a named one. -/
def stepOpen (mode : Mode) (b : Bracket) (outer : List Bracket) (text : List Char) :
    Option (List Bracket × List Char) :=
  match namedSet text with
  | some (complemented, rest) =>
    if mode.hasCases && (mode.unicode || !complemented) then some (b.add 0 :: outer, rest)
    else none
  | none => (openBracket mode text).map fun (inner, rest) => (inner :: b :: outer, rest)

/-- Reads an item of a set: `b` is the innermost open one, with the open ones around it.
The last bracket leaves none open, and then what it closed has the height that is given. -/
def stepBracket (mode : Mode) (b : Bracket) (outer : List Bracket) (c : Char) (rest : List Char) :
    Option ((Nat ⊕ List Bracket) × List Char) :=
  match c, rest with
  | '[', _ => (stepOpen mode b outer rest).map fun (open', rest') => (.inr open', rest')
  | ']', _ =>
    match outer with
    | [] => some (.inl (b.total + 1), rest)
    | next :: outer => some (.inr (next.add (b.total + 1) :: outer), rest)
  | '&', '&' :: rest' => some (.inr (b.combine :: outer), rest')
  | '-', '-' :: rest' => some (.inr (b.combine :: outer), rest')
  | '~', '~' :: rest' => some (.inr (b.combine :: outer), rest')
  | _, _ => (memberOrRange mode (c :: rest)).map fun rest' => (.inr (b.add 0 :: outer), rest')

end Fibonacci.Log.Pattern
