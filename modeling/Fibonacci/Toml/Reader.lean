/-
Readers over a text, and the parts of the grammar that carry no content.

A reader takes the characters that are left and gives what it read with the characters
that are left after it, or nothing where the text does not fit. Everything repeated in
the grammar (the parts of a key, the elements of an array, the statements of a
document) goes through one loop, `collect`. Its bound is the length of the text: a
round that goes on has read at least one character.

A place in a text is the number of characters from there to its end, so readers need
no counter to say where something stands.
-/

set_option autoImplicit false

namespace Fibonacci.Toml

/-- Reads something from the start of a text. -/
abbrev Reader (α : Type) := List Char → Option (α × List Char)

/-- A stretch of a text. Both ends are given as the number of characters that follow. -/
structure Span where
  /-- Characters from the start of the stretch on. -/
  start : Nat
  /-- Characters after the stretch. -/
  stop : Nat
  deriving DecidableEq, Repr

/-- The stretch between what is left before and what is left after. -/
def Span.between (before after : List Char) : Span := ⟨before.length, after.length⟩

/-- From the start of one stretch to the end of another. -/
def Span.through (first last : Span) : Span := ⟨first.start, last.stop⟩

/-! ## Repetition -/

/-- The outcome of one round. -/
inductive Round (α : Type) where
  /-- Something was read and more may follow. -/
  | more (item : α) (rest : List Char)
  /-- Something was read and it was the last. -/
  | last (item : α) (rest : List Char)
  /-- Nothing is left to read. -/
  | done (rest : List Char)

/-- Repeats a round, at most `bound` times. -/
def collectWithin {α : Type} (round : List Char → Option (Round α)) : Nat → Reader (List α)
  | 0, _ => none
  | bound + 1, text =>
    match round text with
    | none => none
    | some (.done rest) => some ([], rest)
    | some (.last item rest) => some ([item], rest)
    | some (.more item rest) =>
      match collectWithin round bound rest with
      | none => none
      | some (items, rest') => some (item :: items, rest')

/-- Repeats a round until it was the last. -/
def collect {α : Type} (round : List Char → Option (Round α)) : Reader (List α) :=
  fun text => collectWithin round (text.length + 1) text

/-- A larger bound keeps an answer that was reached. -/
theorem collectWithin_mono {α : Type} (round : List Char → Option (Round α))
    {bound bound' : Nat} (h : bound ≤ bound') {text : List Char} {answer : List α × List Char}
    (hr : collectWithin round bound text = some answer) :
    collectWithin round bound' text = some answer := by
  induction bound generalizing bound' text answer with
  | zero => simp [collectWithin] at hr
  | succ bound ih =>
    obtain ⟨more, rfl⟩ : ∃ more, bound' = more + 1 := ⟨bound' - 1, by omega⟩
    simp only [collectWithin] at hr ⊢
    split at hr
    · simp at hr
    · simpa using hr
    · simpa using hr
    · next item rest hround =>
      split at hr
      · simp at hr
      · next items rest' hrest =>
        rw [ih (by omega) hrest]
        simpa using hr

section
variable {α : Type} {round : List Char → Option (Round α)} {text rest : List Char} {item : α}

theorem collect_of_done (hround : round text = some (.done rest)) :
    collect round text = some ([], rest) := by
  simp [collect, collectWithin, hround]

theorem collect_of_last (hround : round text = some (.last item rest)) :
    collect round text = some ([item], rest) := by
  simp [collect, collectWithin, hround]

/-- A round that has read something is followed by the rounds on what it has left. -/
theorem collect_of_more {items : List α} {left : List Char}
    (hround : round text = some (.more item rest)) (hshorter : rest.length < text.length)
    (hrest : collect round rest = some (items, left)) :
    collect round text = some (item :: items, left) := by
  have hwithin : collectWithin round text.length rest = some (items, left) :=
    collectWithin_mono round (by omega) hrest
  simp [collect, collectWithin, hround, hwithin]

end

/-! ## Blanks, comments and line ends -/

/-- A blank inside a line. -/
def isGap (c : Char) : Bool := c == ' ' || c == '\t'

/-- Drops the blanks before the next character. -/
def skipGap (text : List Char) : List Char := text.dropWhile isGap

/-- A character that may stand for itself in texts and comments: the tab and every
character that is no control character of ASCII. -/
def isPlain (c : Char) : Bool := c == '\t' || (0x20 ≤ c.toNat && c.toNat != 0x7F)

/-- Reads a line end, of one character or two; the end of the text is no line end. -/
def newline? : List Char → Option (List Char)
  | '\n' :: rest => some rest
  | '\r' :: '\n' :: rest => some rest
  | _ => none

/-- Reads the end of a line or of the text. -/
def lineEnd? : List Char → Option (List Char)
  | [] => some []
  | text => newline? text

/-- Drops a comment, if one starts here, up to the end of its line. -/
def skipComment : List Char → List Char
  | '#' :: rest => rest.dropWhile isPlain
  | text => text

/-- Reads what may stand between a statement and the next line. -/
def trailing? (text : List Char) : Option (List Char) := lineEnd? (skipComment (skipGap text))

/-- Drops blanks, line ends and comments, over any number of lines. Inside a comment
only a line end leads out. -/
def skipLines (inComment : Bool) : List Char → Option (List Char)
  | [] => some []
  | '\n' :: rest => skipLines false rest
  | '\r' :: '\n' :: rest => skipLines false rest
  | c :: rest =>
    if inComment then
      if isPlain c then skipLines true rest else none
    else if isGap c then skipLines false rest
    else if c = '#' then skipLines true rest
    else some (c :: rest)

end Fibonacci.Toml
