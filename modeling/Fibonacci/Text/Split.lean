/-
Splitting a text at a separator.

Paths are split at slashes, log filters at commas and source texts at line ends. A
text with `k` separators has `k + 1` pieces, some of them perhaps empty, and the
pieces with the separators between them are the text again.
-/

set_option autoImplicit false

namespace Fibonacci.Text

/-- Puts a character in front of the first piece. -/
def consPiece (c : Char) : List (List Char) → List (List Char)
  | [] => [[c]]
  | piece :: more => (c :: piece) :: more

/-- The pieces between separators. -/
def splitAt (separator : Char) : List Char → List (List Char)
  | [] => [[]]
  | c :: rest =>
    if c = separator then [] :: splitAt separator rest
    else consPiece c (splitAt separator rest)

/-- A separator ends the piece before it. -/
theorem splitAt_append_cons {separator : Char} {piece : List Char} (h : separator ∉ piece)
    (rest : List Char) :
    splitAt separator (piece ++ separator :: rest) = piece :: splitAt separator rest := by
  induction piece with
  | nil => rw [List.nil_append, splitAt, if_pos rfl]
  | cons c piece ih =>
    have hc : c ≠ separator := by
      rintro rfl
      exact h List.mem_cons_self
    have hpiece : separator ∉ piece := fun hmem => h (List.mem_cons_of_mem c hmem)
    rw [List.cons_append, splitAt, if_neg hc, ih hpiece, consPiece]

/-- Pieces that each end with a separator are found again, with nothing behind the last. -/
theorem splitAt_flatMap {separator : Char} {pieces : List (List Char)}
    (h : ∀ piece ∈ pieces, separator ∉ piece) :
    splitAt separator (pieces.flatMap (· ++ [separator])) = pieces ++ [[]] := by
  induction pieces with
  | nil => rfl
  | cons piece pieces ih =>
    obtain ⟨hpiece, hpieces⟩ := List.forall_mem_cons.mp h
    rw [List.flatMap_cons, List.append_assoc, List.singleton_append, splitAt_append_cons hpiece,
      ih hpieces, List.cons_append]

end Fibonacci.Text
