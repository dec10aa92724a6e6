/-
Escapes in a pattern.

A backslash before a sign takes its meaning away, and before a letter gives it one: a
control character, a code point in hexadecimal, a set of characters, or a place. The sets
of digits, blanks and word characters are known for ASCII alone, where their complements
would hold parts of characters; the categories of Unicode are not known at all.
-/
import Fibonacci.Log.Pattern.Mode
import Fibonacci.Text.Hex

set_option autoImplicit false

namespace Fibonacci.Log.Pattern

/-- What an escape stands for. -/
inductive Escaped where
  | character (c : Char)
  /-- A set of characters. -/
  | set
  /-- The start or the end of the text. -/
  | limit
  /-- The edge of a word. -/
  | edge
  deriving DecidableEq, Repr

/-- Reads hexadecimal digits. -/
def codeDigits (mode : Mode) : Nat → Nat → List Char → Option (Nat × List Char)
  | 0, value, text => some (value, text)
  | left + 1, value, text =>
    match mode.skip text with
    | [] => none
    | c :: rest => do codeDigits mode left (value * 16 + (← Text.hexValue? c)) rest

/-- Reads the code point of a character. -/
def codePoint (mode : Mode) (width : Nat) (text : List Char) : Option (Char × List Char) := do
  let (code, rest) ← codeDigits mode width 0 text
  if code.isValidChar then some (Char.ofNat code, rest) else none

/-- Whether a sign can be escaped: all of ASCII that is no letter, digit or angle. -/
def isEscapable (c : Char) : Bool := c.toNat < 128 && !c.isAlphanum && c != '<' && c != '>'

/-- The control character that a letter stands for. -/
def control? : Char → Option Char
  | 'a' => some '\x07'
  | 'f' => some '\x0c'
  | 't' => some '\t'
  | 'n' => some '\n'
  | 'r' => some '\r'
  | 'v' => some '\x0b'
  | _ => none

/-- Reads an escape behind its backslash. Two digits name a byte where ASCII is meant, so
they cannot go beyond it there. -/
def escape (mode : Mode) : List Char → Option (Escaped × List Char)
  | [] => none
  | c :: rest =>
    match c with
    | 'x' => do
      let (named, rest') ← codePoint mode 2 rest
      if mode.unicode || named.toNat < 128 then some (.character named, rest') else none
    | 'u' => (codePoint mode 4 rest).map fun (named, rest') => (.character named, rest')
    | 'U' => (codePoint mode 8 rest).map fun (named, rest') => (.character named, rest')
    | 'd' | 's' | 'w' => if mode.unicode then none else some (.set, rest)
    | 'A' | 'z' => some (.limit, rest)
    | 'b' | 'B' | '<' | '>' => some (.edge, rest)
    | _ =>
      if isEscapable c then some (.character c, rest)
      else (control? c).map fun named => (.character named, rest)

end Fibonacci.Log.Pattern
