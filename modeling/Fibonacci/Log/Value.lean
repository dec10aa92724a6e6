/-
Values in directives.

The value that a directive asks of a field is a truth value, a number or a pattern, that
is, a regular expression. As the program records no field in a span, no value is ever
compared. What shows is whether a pattern can be used: one that is not well formed is
refused, and so is one with a word boundary of Unicode, which the matcher cannot look for.
Truth values are patterns as well, and so is every number that has no plus sign.
-/
import Fibonacci.Log.Pattern.Scan
import Fibonacci.Text.Numeral

set_option autoImplicit false

namespace Fibonacci.Log

/-! ## Numbers -/

/-- Takes one sign off. -/
def unsigned : List Char → List Char
  | '+' :: rest => rest
  | '-' :: rest => rest
  | text => text

/-- Digits with at most one point among them, at least one digit. -/
def isDecimal (text : List Char) : Bool :=
  let whole := text.takeWhile Text.isDigit
  match text.dropWhile Text.isDigit with
  | [] => !whole.isEmpty
  | '.' :: fraction => fraction.all Text.isDigit && !(whole ++ fraction).isEmpty
  | _ => false

/-- Whether a character announces an exponent. -/
def isExponentMark (c : Char) : Bool := c == 'e' || c == 'E'

/-- A decimal that may have an exponent. -/
def isScientific (text : List Char) : Bool :=
  isDecimal (text.takeWhile (!isExponentMark ·)) &&
    match text.dropWhile (!isExponentMark ·) with
    | [] => true
    | _ :: exponent => Text.isNumeral (unsigned exponent)

/-- Whether a value is a number. -/
def isNumber (text : List Char) : Bool :=
  let size := unsigned text
  isScientific size || ["inf", "infinity", "nan"].any (size.map Char.toLower == ·.toList)

/-! ## Judging -/

/-- Why a value cannot be used. -/
inductive ValueFault where
  /-- The pattern is not well formed, or says what the matcher does not know. -/
  | badPattern
  /-- The pattern has a word boundary of Unicode. -/
  | wordBoundary
  deriving DecidableEq, Repr

/-- The text shown to the user. -/
def ValueFault.message : ValueFault → String
  | .badPattern => "error building NFA"
  | .wordBoundary =>
    "unsupported regex feature for DFAs: cannot build DFAs for regexes with Unicode word " ++
      "boundaries; switch to ASCII word boundaries, or heuristically enable Unicode word " ++
      "boundaries or use a different regex engine"

/-- Judges the value that a directive asks of a field. -/
def judgeValue (text : List Char) : Except ValueFault Unit :=
  if isNumber text then .ok ()
  else match Pattern.scan text with
  | none => .error .badPattern
  | some seen => if seen.boundary then .error .wordBoundary else .ok ()

end Fibonacci.Log
