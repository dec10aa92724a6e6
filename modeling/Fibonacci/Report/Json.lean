/-
A report as one JSON object.

The object is compact and its members come in a fixed order: `n`, `value`,
`algorithm`, `calls` where they were counted, `elapsed_ms`. Integers keep all their
digits. A text is written between quotes with the quote, the backslash and the
characters below `U+0020` escaped and everything else as it is, so a JSON report never
has more than one line. A time that is no finite number is `null`.
-/
import Fibonacci.Decimal.Layout
import Fibonacci.Report.Basic
import Fibonacci.Text.Hex

set_option autoImplicit false

namespace Fibonacci.Report.Json

/-! ## Texts -/

/-- The letter that stands for a character after a backslash. -/
def escapeLetter? : Char → Option Char
  | '"' => some '"'
  | '\\' => some '\\'
  | '\x08' => some 'b'
  | '\x0c' => some 'f'
  | '\n' => some 'n'
  | '\r' => some 'r'
  | '\t' => some 't'
  | _ => none

/-- A character as it is written inside quotes. -/
def escapeChar (c : Char) : List Char :=
  match escapeLetter? c with
  | some letter => ['\\', letter]
  | none => if c.toNat < 0x20 then '\\' :: 'u' :: Text.hexPadded 4 c.toNat else [c]

/-- A text without its quotes. -/
def escape (text : List Char) : List Char := text.flatMap escapeChar

/-- A text between quotes. -/
def quote (text : List Char) : List Char := '"' :: (escape text ++ ['"'])

@[simp] theorem escape_cons (c : Char) (text : List Char) :
    escape (c :: text) = escapeChar c ++ escape text := by
  simp [escape]

/-! ## Numbers -/

/-- Numbers from `10 ^ -5` up to `10 ^ 16` are written out in full; an exponent
carries its sign in either direction; a half goes to the even digit. -/
def numberLayout : Layout where
  tie := .toEven
  isPlain power := decide (-5 ≤ power ∧ power ≤ 15)
  plus := ['+']

/-- A double as a JSON value. -/
def number (x : Binary64) : List Char := (x.natural? numberLayout).getD "null".toList

/-! ## The object -/

/-- The members in order, each with the text of its value. -/
def members (r : Report) : List (List Char × List Char) :=
  [("n".toList, Text.digits r.index.toNat),
   ("value".toList, Text.digits r.value.toNat),
   ("algorithm".toList, quote r.algorithm.toList)] ++
  (r.calls.map fun calls => ("calls".toList, Text.digits calls.toNat)).toList ++
  [("elapsed_ms".toList, number r.elapsed)]

/-- A member, name before value. -/
def member (entry : List Char × List Char) : List Char := quote entry.1 ++ ':' :: entry.2

/-- The report as a JSON text. -/
def text (r : Report) : List Char :=
  "\x7b".toList ++ List.intercalate [','] ((members r).map member) ++ "\x7d".toList

end Fibonacci.Report.Json
