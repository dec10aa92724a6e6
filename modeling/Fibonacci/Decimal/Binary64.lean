/-
Double-precision numbers as bit patterns.

A time measured in milliseconds and a fractional number in a configuration file are
both doubles. What the program does with one is to write it, so a double here is its
sixty-four bits, and every question about it is answered on the two integers that the
bits stand for: a finite double is `significand * 2 ^ exponent` with a sign.
-/

set_option autoImplicit false

namespace Fibonacci

/-- A double, as its bit pattern. -/
structure Binary64 where
  /-- The sixty-four bits, the sign in the highest. -/
  bits : UInt64
  deriving DecidableEq, Repr, Inhabited

namespace Binary64

/-! ## Decoding -/

/-- The absolute value of a finite double. -/
structure Magnitude where
  /-- At most fifty-three bits. -/
  significand : Nat
  /-- The power of two that the significand is scaled by. -/
  exponent : Int
  /-- Whether the next double below is only half as far away as the next above,
  which is so at a power of two. -/
  narrow : Bool
  deriving DecidableEq, Repr

/-- What a bit pattern stands for, its sign apart. -/
inductive Kind where
  /-- No number. -/
  | nan
  /-- Infinity. -/
  | infinite
  /-- A number. -/
  | finite (magnitude : Magnitude)
  deriving DecidableEq, Repr

/-- Whether the sign bit is set. -/
def isNegative (x : Binary64) : Bool := 0x8000000000000000 ≤ x.bits.toNat

/-- The eleven bits of the exponent. -/
def exponentField (x : Binary64) : Nat := x.bits.toNat / Nat.pow 2 52 % Nat.pow 2 11

/-- The fifty-two bits of the fraction. -/
def fractionField (x : Binary64) : Nat := x.bits.toNat % Nat.pow 2 52

/-- Decodes the bits. -/
def kind (x : Binary64) : Kind :=
  if x.exponentField = 0 then
    .finite ⟨x.fractionField, -1074, false⟩
  else if x.exponentField < 2047 then
    .finite ⟨Nat.pow 2 52 + x.fractionField, x.exponentField - 1075,
      x.fractionField == 0 && 1 < x.exponentField⟩
  else if x.fractionField = 0 then
    .infinite
  else
    .nan

/-! ## Building -/

/-- The bit pattern of a machine double. -/
def ofFloat (x : Float) : Binary64 := ⟨x.toBits⟩

/-- The double with the opposite sign. -/
def negate (x : Binary64) : Binary64 := ⟨x.bits ^^^ 0x8000000000000000⟩

/-- Infinity. -/
def infinity : Binary64 := ⟨0x7FF0000000000000⟩

/-- The double that stands for no number. -/
def notANumber : Binary64 := ⟨0x7FF8000000000000⟩

/-- The double nearest to `coefficient * 10 ^ exponent`. A number of more than 310
digits before the point is beyond every double, and one with more than 330 zeros
after it is nearer to zero than to any other; between the two the powers of ten stay
small. -/
def ofDecimal (coefficient : Nat) (exponent : Int) : Binary64 :=
  let lead : Int := (Nat.toDigits 10 coefficient).length + exponent
  if coefficient = 0 ∨ lead < -330 then ⟨0⟩
  else if 310 < lead then infinity
  else ofFloat (Float.ofScientific coefficient (decide (exponent < 0)) exponent.natAbs)

end Binary64
end Fibonacci
