/-
Decimal numerals.

Numbers enter and leave the program as runs of the ASCII digits `0` to `9`. This
file has both directions over the naturals, with no width in it: `digits` writes
the canonical numeral (no leading zero, `0` for zero) and `valueOf` reads any run
of digits, leading zeros allowed. The limits of a machine word are checked by the
callers, on the natural number that was read.
-/

set_option autoImplicit false

namespace Fibonacci.Text

/-! ## Digits -/

/-- One of `0` to `9`; digits of other scripts do not count. -/
def isDigit (c : Char) : Bool := decide ('0'.toNat ≤ c.toNat ∧ c.toNat ≤ '9'.toNat)

/-- What a digit stands for. -/
def digitValue (c : Char) : Nat := c.toNat - '0'.toNat

/-- The digit for a number below ten. -/
def digitChar (n : Nat) : Char := Char.ofNat ('0'.toNat + n % 10)

/-- A non-empty run of digits. -/
def isNumeral (text : List Char) : Bool := !text.isEmpty && text.all isDigit

/-- Takes one plus sign off. -/
def withoutPlus : List Char → List Char
  | '+' :: rest => rest
  | text => text

/-! ## Reading and writing -/

/-- The number that a run of digits stands for, most significant first. -/
def valueOf (text : List Char) : Nat :=
  text.foldl (fun value c => value * 10 + digitValue c) 0

/-- The canonical numeral of a natural number. -/
def digits (n : Nat) : List Char :=
  if n < 10 then [digitChar n] else digits (n / 10) ++ [digitChar n]

/-- The canonical numeral of an integer, with `-` before a negative one. -/
def signedDigits (i : Int) : List Char :=
  if i < 0 then '-' :: digits i.natAbs else digits i.natAbs

/-- The canonical numeral as a string. -/
def numeral (n : Nat) : String := String.ofList (digits n)

/-- The canonical signed numeral as a string. -/
def signedNumeral (i : Int) : String := String.ofList (signedDigits i)

@[simp] theorem valueOf_concat (text : List Char) (c : Char) :
    valueOf (text ++ [c]) = valueOf text * 10 + digitValue c := by
  simp [valueOf, List.foldl_append]

end Fibonacci.Text
