/-
The modes that a pattern is read in.

Flags change how the rest of a pattern is read: whether blanks and comments count, whether
characters beyond ASCII are meant, and whether casing counts. The other flags change what
a pattern matches and not whether it can be used.

The matcher has no tables of Unicode. So where casing does not count and all of Unicode is
meant, no character at all can be used: its counterparts would have to be looked up.
-/
import Fibonacci.Text.Blank

set_option autoImplicit false

namespace Fibonacci.Log.Pattern

/-- How a pattern is read. -/
structure Mode where
  /-- Blanks and comments do not count. -/
  spaced : Bool := false
  /-- All of Unicode is meant, not ASCII alone. -/
  unicode : Bool := true
  /-- Casing does not count. -/
  caseless : Bool := false
  deriving DecidableEq, Repr

/-! ## Blanks and comments -/

/-- Drops blanks, and comments to the end of their line. -/
def skipSpace (inComment : Bool) : List Char → List Char
  | [] => []
  | c :: rest =>
    if inComment then skipSpace (c ≠ '\n') rest
    else if Text.isBlank c then skipSpace false rest
    else if c = '#' then skipSpace true rest
    else c :: rest

/-- Drops what does not count. -/
def Mode.skip (mode : Mode) (text : List Char) : List Char :=
  if mode.spaced then skipSpace false text else text

/-! ## Flags -/

/-- The flags; a dash turns those behind it off. -/
def flags : List Char := ['i', 'm', 's', 'U', 'u', 'R', 'x', '-']

/-- Whether a text is a list of flags. -/
def areFlags (text : List Char) : Bool :=
  text.all flags.contains && decide text.Nodup && text.getLast? != some '-'

/-- Whether flags turn one of them on or off. -/
def flag? (text : List Char) (flag : Char) : Option Bool :=
  if text.contains flag then some (!(text.dropWhile (· ≠ '-')).contains flag) else none

/-- The mode after flags. -/
def Mode.adjusted (mode : Mode) (text : List Char) : Mode where
  spaced := (flag? text 'x').getD mode.spaced
  unicode := (flag? text 'u').getD mode.unicode
  caseless := (flag? text 'i').getD mode.caseless

/-! ## Characters -/

/-- Whether anything that stands for characters can be used. -/
def Mode.hasCases (mode : Mode) : Bool := !(mode.caseless && mode.unicode)

/-- Whether a character can stand in a set. -/
def Mode.admits (mode : Mode) (c : Char) : Bool :=
  mode.hasCases && (mode.unicode || c.toNat < 128)

end Fibonacci.Log.Pattern
