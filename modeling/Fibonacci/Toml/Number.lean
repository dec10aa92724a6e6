/-
Numbers.

An integer is decimal with a sign if wanted, or hexadecimal, octal or binary without
one; it has to fit in sixty-four bits with a sign. A float has a fraction, an exponent
or both; infinity and "not a number" have names. Underscores may stand between two
digits. A float too large for a double is refused if it is positive and becomes
negative infinity if it is not.
-/
import Fibonacci.Decimal.Binary64
import Fibonacci.Text.Hex
import Fibonacci.Text.Numeral
import Fibonacci.Toml.Reader

set_option autoImplicit false

namespace Fibonacci.Toml.Number

/-! ## Runs of digits -/

/-- The digits that follow a digit, with underscores between two of them left out. -/
def moreDigits (isDigit : Char → Bool) : List Char → List Char × List Char
  | [] => ([], [])
  | [c] => if isDigit c then ([c], []) else ([], [c])
  | c :: d :: rest =>
    if isDigit c then
      let (digits, left) := moreDigits isDigit (d :: rest)
      (c :: digits, left)
    else if c = '_' && isDigit d then
      let (digits, left) := moreDigits isDigit rest
      (d :: digits, left)
    else
      ([], c :: d :: rest)

/-- Reads a run of at least one digit. -/
def digits? (isDigit : Char → Bool) : Reader (List Char)
  | [] => none
  | c :: rest =>
    if isDigit c then
      let (digits, left) := moreDigits isDigit rest
      some (c :: digits, left)
    else none

/-- Reads the digits of a decimal integer: a lone zero, or a run that does not start
with one. -/
def decimal? : Reader (List Char)
  | '0' :: rest => some (['0'], rest)
  | text => digits? Text.isDigit text

/-- Reads a sign, if there is one; the answer is whether it was a minus. -/
def sign : List Char → Bool × List Char
  | '+' :: rest => (false, rest)
  | '-' :: rest => (true, rest)
  | text => (false, text)

/-- A natural number with a sign. -/
def signed (negative : Bool) (value : Nat) : Int := if negative then -(value : Int) else value

/-! ## Integers -/

/-- The least integer. -/
def minInteger : Int := -0x8000000000000000

/-- The greatest integer. -/
def maxInteger : Int := 0x7FFFFFFFFFFFFFFF

/-- Lets through the integers in range. -/
def inRange? (value : Int) : Option Int :=
  if minInteger ≤ value ∧ value ≤ maxInteger then some value else none

/-- A hexadecimal digit of either case. -/
def isHex (c : Char) : Bool := (Text.hexValue? c).isSome

/-- An octal digit. -/
def isOctal (c : Char) : Bool := Text.isDigit c && Text.digitValue c < 8

/-- A binary digit. -/
def isBinary (c : Char) : Bool := c == '0' || c == '1'

/-- The value of a run of digits in a base. -/
def valueIn (base : Nat) (digits : List Char) : Nat :=
  digits.foldl (fun value c => value * base + (Text.hexValue? c).getD 0) 0

/-- Reads the digits of an integer in a base other than ten. -/
def based? (base : Nat) (isDigit : Char → Bool) (text : List Char) : Option (Int × List Char) := do
  let (digits, rest) ← digits? isDigit text
  let value ← inRange? (valueIn base digits)
  return (value, rest)

/-- Reads an integer. -/
def integer? : Reader Int
  | '0' :: 'x' :: rest => based? 16 isHex rest
  | '0' :: 'o' :: rest => based? 8 isOctal rest
  | '0' :: 'b' :: rest => based? 2 isBinary rest
  | text => do
    let (negative, rest) := sign text
    let (digits, rest) ← decimal? rest
    let value ← inRange? (signed negative (Text.valueOf digits))
    return (value, rest)

/-! ## Floats -/

/-- Reads an exponent with its mark. -/
def exponent? : Reader Int
  | [] => none
  | c :: rest =>
    if c = 'e' || c = 'E' then do
      let (negative, rest) := sign rest
      let (digits, rest) ← digits? Text.isDigit rest
      return (signed negative (Text.valueOf digits), rest)
    else none

/-- Reads a fraction with its point. -/
def fraction? : Reader (List Char)
  | '.' :: rest => digits? Text.isDigit rest
  | _ => none

/-- The double for a decimal, refused if it is positive infinity. -/
def double? (negative : Bool) (coefficient : Nat) (exponent : Int) : Option Binary64 :=
  let magnitude := Binary64.ofDecimal coefficient exponent
  if negative then some magnitude.negate
  else if magnitude = Binary64.infinity then none
  else some magnitude

/-- Reads a float in digits. -/
def decimalFloat? (text : List Char) : Option (Binary64 × List Char) := do
  let (negative, text) := sign text
  let (whole, text) ← decimal? text
  match fraction? text with
  | some (places, text) =>
    let (exponent, text) := (exponent? text).getD (0, text)
    let value ← double? negative (Text.valueOf (whole ++ places)) (exponent - places.length)
    return (value, text)
  | none =>
    let (exponent, text) ← exponent? text
    let value ← double? negative (Text.valueOf whole) exponent
    return (value, text)

/-- Reads a float that has a name. -/
def namedFloat? (text : List Char) : Option (Binary64 × List Char) :=
  let (negative, text) := sign text
  let withSign (x : Binary64) : Binary64 := if negative then x.negate else x
  match text with
  | 'i' :: 'n' :: 'f' :: rest => some (withSign Binary64.infinity, rest)
  | 'n' :: 'a' :: 'n' :: rest => some (withSign Binary64.notANumber, rest)
  | _ => none

/-- Reads a float. -/
def float? (text : List Char) : Option (Binary64 × List Char) :=
  (decimalFloat? text).or (namedFloat? text)

end Fibonacci.Toml.Number
