/-
Hexadecimal digits.

Escapes name a character by its code point in base sixteen: four lower-case digits in
a report, as few as needed in a diagnostic, four or eight of either case in a
configuration file.
-/

set_option autoImplicit false

namespace Fibonacci.Text

/-- The value of a hexadecimal digit of either case. -/
def hexValue? (c : Char) : Option Nat :=
  if '0' ≤ c ∧ c ≤ '9' then some (c.toNat - '0'.toNat)
  else if 'a' ≤ c ∧ c ≤ 'f' then some (c.toNat - 'a'.toNat + 10)
  else if 'A' ≤ c ∧ c ≤ 'F' then some (c.toNat - 'A'.toNat + 10)
  else none

/-- The lower-case digit for a number below sixteen. -/
def hexChar (n : Nat) : Char :=
  if n % 16 < 10 then Char.ofNat ('0'.toNat + n % 16)
  else Char.ofNat ('a'.toNat + (n % 16 - 10))

/-- The last `width` hexadecimal digits of a number. -/
def hexPadded : Nat → Nat → List Char
  | 0, _ => []
  | width + 1, n => hexPadded width (n / 16) ++ [hexChar n]

/-- The hexadecimal digits of a number, none of them a leading zero. -/
def hexDigits (n : Nat) : List Char :=
  if n < 16 then [hexChar n] else hexDigits (n / 16) ++ [hexChar n]

/-- A digit that is written reads as the number it stands for. -/
theorem hexValue?_hexChar (n : Nat) : hexValue? (hexChar n) = some (n % 16) := by
  have hall : ∀ d : Fin 16, hexValue? (hexChar d) = some d.val := by decide
  have hchar : hexChar n = hexChar (n % 16) := by simp [hexChar]
  rw [hchar]
  exact hall ⟨n % 16, Nat.mod_lt _ (by decide)⟩

end Fibonacci.Text
