/-
Blank characters and trimming.

Every text setting of the program (an index, an algorithm name, a report
specification) is read after its surrounding blanks are taken off. "Blank" is the
Unicode property `White_Space`: twenty-five code points, listed once below as ten
ranges. A zero-width space, a byte order mark and the separators `U+001C` to
`U+001F` are not blank.

Texts are lists of characters here, so that trimming is two `dropWhile`s and the
laws about padding come from the list library.
-/
import Fibonacci.Text.Ranges

set_option autoImplicit false

namespace Fibonacci.Text

/-! ## The class -/

/-- The code points with the property `White_Space`, as inclusive ranges in
ascending order. -/
def whiteSpace : List (Nat × Nat) :=
  [(0x09, 0x0D), (0x20, 0x20), (0x85, 0x85), (0xA0, 0xA0), (0x1680, 0x1680),
   (0x2000, 0x200A), (0x2028, 0x2029), (0x202F, 0x202F), (0x205F, 0x205F),
   (0x3000, 0x3000)]

/-- Whether a character is blank, by table. -/
def isBlank (c : Char) : Bool := inRanges whiteSpace c.toNat

/-! ## Trimming -/

/-- Drops the blanks at the start. -/
def trimStart (text : List Char) : List Char := text.dropWhile isBlank

/-- Drops the blanks at the end. -/
def trimEnd (text : List Char) : List Char := (text.reverse.dropWhile isBlank).reverse

/-- Drops the blanks at both ends; blanks inside stay. -/
def trim (text : List Char) : List Char := trimEnd (trimStart text)

theorem trimStart_cons_of_not_blank {c : Char} {text : List Char} (h : isBlank c = false) :
    trimStart (c :: text) = c :: text := by
  simp [trimStart, h]

theorem trimEnd_concat_of_blank {c : Char} {text : List Char} (h : isBlank c = true) :
    trimEnd (text ++ [c]) = trimEnd text := by
  simp [trimEnd, h]

theorem trimEnd_concat_of_not_blank {c : Char} {text : List Char} (h : isBlank c = false) :
    trimEnd (text ++ [c]) = text ++ [c] := by
  simp [trimEnd, h]

end Fibonacci.Text
