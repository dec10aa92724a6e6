/-
Writing doubles.

Two forms are in use. The natural form takes the shortest digits of a double and lays
them out with a point or with an exponent; which exponents are written out in full,
whether a plus sign stands before an exponent and where an exact half goes are the
decisions of the format, gathered in a `Layout`. The fixed form rounds the exact value
to a number of places.
-/
import Fibonacci.Decimal.Shortest
import Fibonacci.Text.Numeral

set_option autoImplicit false

namespace Fibonacci

/-- The decisions of a format for doubles in natural form. -/
structure Layout where
  /-- Where a double goes that lies midway between its two shortest decimals. -/
  tie : Decimal.Tie
  /-- Whether a number whose leading digit has this power of ten is written out in
  full, with at least one digit on either side of the point. -/
  isPlain : Int → Bool
  /-- What stands before the digits of an exponent that is not negative. -/
  plus : List Char

namespace Decimal

/-! ## Natural form -/

/-- A run of zeros. -/
def zeros (n : Nat) : List Char := List.replicate n '0'

/-- The number written out in full, at least one digit on either side of the point. -/
def plain (d : Decimal) : List Char :=
  let digits := Text.digits d.coefficient
  if 0 ≤ d.exponent then
    digits ++ zeros d.exponent.toNat ++ ['.', '0']
  else
    let places := d.exponent.natAbs
    if places < digits.length then
      digits.take (digits.length - places) ++ '.' :: digits.drop (digits.length - places)
    else
      '0' :: '.' :: (zeros (places - digits.length) ++ digits)

/-- The power of ten of the leading digit. -/
def leadingPower (d : Decimal) : Int := (Text.digits d.coefficient).length - 1 + d.exponent

/-- An exponent with its sign. -/
def signedPower (plus : List Char) (power : Int) : List Char :=
  (if power < 0 then ['-'] else plus) ++ Text.digits power.natAbs

/-- The number as one digit, a point and more digits if there are any, and an
exponent. -/
def scientific (plus : List Char) (d : Decimal) : List Char :=
  (match Text.digits d.coefficient with
    | [] => []
    | [digit] => [digit]
    | digit :: more => digit :: '.' :: more) ++
  'e' :: signedPower plus d.leadingPower

/-- Lays a decimal out. -/
def layOut (layout : Layout) (d : Decimal) : List Char :=
  if layout.isPlain d.leadingPower then d.plain else d.scientific layout.plus

end Decimal

namespace Binary64

/-- The sign of a double, nothing for a positive one. -/
def sign (x : Binary64) : List Char := if x.isNegative then ['-'] else []

/-- A finite double in natural form; nothing for the others. -/
def natural? (layout : Layout) (x : Binary64) : Option (List Char) :=
  match x.kind with
  | .finite magnitude => some (x.sign ++ (magnitude.shortest layout.tie).layOut layout)
  | _ => none

/-- What is written for a double that is no finite number: `NaN` without a sign,
`inf` with one. -/
def special (x : Binary64) : List Char :=
  match x.kind with
  | .nan => ['N', 'a', 'N']
  | _ => x.sign ++ ['i', 'n', 'f']

/-- A double in natural form, in words if it is no finite number. -/
def natural (layout : Layout) (x : Binary64) : List Char :=
  (x.natural? layout).getD x.special

/-! ## Fixed form -/

/-- The magnitude in units of `10 ^ -places`, rounded to a whole number of them with
halves to even. -/
def Magnitude.roundTo (places : Nat) (x : Magnitude) : Nat :=
  Decimal.nearest .toEven (x.significand * Nat.pow 2 x.exponent.toNat * Nat.pow 10 places)
    (Nat.pow 2 (-x.exponent).toNat)

/-- A whole number of units of `10 ^ -places`, with the point set. -/
def setPoint (places : Nat) (units : Nat) : List Char :=
  Text.digits (units / Nat.pow 10 places) ++
    '.' :: (Decimal.zeros (places - (Text.digits (units % Nat.pow 10 places)).length) ++
      Text.digits (units % Nat.pow 10 places))

/-- A double with a fixed number of places after the point, at least one. The sign
stays even if everything else rounds to zero. -/
def fixed (places : Nat) (x : Binary64) : List Char :=
  match x.kind with
  | .finite magnitude => x.sign ++ setPoint places (magnitude.roundTo places)
  | _ => x.special

end Binary64
end Fibonacci
