/-
What trimming leaves.

Trimming is two passes, one from each end. What it leaves can be said without them: the
text is that with blanks before and after it, and neither of its ends is blank. There is
one such text for every text (`strips_iff`), so a statement about trimmed texts is one
about texts with blanks around them.

The pass from the end is the pass from the start on the text read backwards, so each fact
about a pass is shown once.
-/
import Fibonacci.Text.Blank
import Mathlib.Data.List.TakeWhile

set_option autoImplicit false

namespace Fibonacci.Text

/-- The characters are all blank. -/
def Blanks (text : List Char) : Prop := ∀ c ∈ text, isBlank c = true

instance (text : List Char) : Decidable (Blanks text) :=
  decidable_of_iff (text.all isBlank = true) List.all_eq_true

/-- A text that is empty or starts with a character that is not blank. -/
def StartsVisible (text : List Char) : Prop := ∀ c ∈ text.head?, isBlank c = false

/-- `core` is `text` without the blanks around it. -/
structure Strips (text core : List Char) : Prop where
  around : ∃ before after, text = before ++ core ++ after ∧ Blanks before ∧ Blanks after
  start : StartsVisible core
  stop : StartsVisible core.reverse

theorem Blanks.reverse {text : List Char} (h : Blanks text) : Blanks text.reverse := by
  intro c hc
  exact h c (List.mem_reverse.mp hc)

theorem Blanks.append {text other : List Char} (h : Blanks text) (h' : Blanks other) :
    Blanks (text ++ other) := by
  intro c hc
  rcases List.mem_append.mp hc with hc | hc
  · exact h c hc
  · exact h' c hc

theorem trimEnd_eq_reverse (text : List Char) :
    trimEnd text = (trimStart text.reverse).reverse := rfl

/-! ## One pass -/

theorem exists_blanks_append_trimStart (text : List Char) :
    ∃ before, text = before ++ trimStart text ∧ Blanks before := by
  refine ⟨text.takeWhile isBlank, (List.takeWhile_append_dropWhile).symm, ?_⟩
  intro c hc
  exact List.mem_takeWhile_imp hc

theorem startsVisible_trimStart (text : List Char) : StartsVisible (trimStart text) := by
  intro c hc
  have hhead := List.head?_dropWhile_not isBlank text
  rw [trimStart] at hc
  rw [Option.mem_def.mp hc] at hhead
  exact hhead

theorem trimStart_append {before text : List Char} (h : Blanks before) :
    trimStart (before ++ text) = trimStart text :=
  List.dropWhile_append_of_pos h

theorem trimStart_of_startsVisible {text : List Char} (h : StartsVisible text) :
    trimStart text = text := by
  rcases text with _ | ⟨c, rest⟩
  · rfl
  · exact trimStart_cons_of_not_blank (h c rfl)

theorem trimEnd_append {text after : List Char} (h : Blanks after) :
    trimEnd (text ++ after) = trimEnd text := by
  rw [trimEnd_eq_reverse, List.reverse_append, trimStart_append h.reverse, ← trimEnd_eq_reverse]

theorem trimEnd_of_startsVisible {text : List Char} (h : StartsVisible text.reverse) :
    trimEnd text = text := by
  rw [trimEnd_eq_reverse, trimStart_of_startsVisible h, List.reverse_reverse]

/-! ## Both passes -/

theorem trim_of_strips {text core : List Char} (h : Strips text core) : trim text = core := by
  obtain ⟨before, after, rfl, hbefore, hafter⟩ := h.around
  rw [trim, List.append_assoc, trimStart_append hbefore]
  rcases core with _ | ⟨c, rest⟩
  · -- nothing but blanks: the first pass takes them all
    rw [List.nil_append, ← List.append_nil after, trimStart_append hafter]
    rfl
  · rw [List.cons_append, trimStart_cons_of_not_blank (h.start c rfl), ← List.cons_append,
      trimEnd_append hafter, trimEnd_of_startsVisible h.stop]

theorem strips_trim (text : List Char) : Strips text (trim text) := by
  obtain ⟨before, htext, hbefore⟩ := exists_blanks_append_trimStart text
  obtain ⟨after, hstart, hafter⟩ := exists_blanks_append_trimStart (trimStart text).reverse
  have hsplit : trimStart text = trim text ++ after.reverse := by
    rw [trim, trimEnd_eq_reverse, ← List.reverse_append, ← hstart, List.reverse_reverse]
  refine ⟨⟨before, after.reverse, ?_, hbefore, hafter.reverse⟩, ?_, ?_⟩
  · rw [List.append_assoc, ← hsplit, ← htext]
  · -- what the second pass leaves starts as what the first has left
    intro c hc
    apply startsVisible_trimStart text c
    rw [hsplit, List.head?_append, Option.mem_def.mp hc]
    rfl
  · rw [trim, trimEnd_eq_reverse, List.reverse_reverse]
    exact startsVisible_trimStart _

/-- The trimmed text is the only one that has blanks around it and none at its ends. -/
theorem strips_iff {text core : List Char} : Strips text core ↔ trim text = core := by
  constructor
  · exact trim_of_strips
  · rintro rfl
    exact strips_trim text

/-- A text with nothing blank in it, and blanks around it. -/
theorem strips_of_not_blank {before core after : List Char} (hbefore : Blanks before)
    (hafter : Blanks after) (h : ∀ c ∈ core, isBlank c = false) :
    Strips (before ++ core ++ after) core := by
  refine ⟨⟨before, after, rfl, hbefore, hafter⟩, ?_, ?_⟩
  · intro c hc
    exact h c (List.mem_of_mem_head? hc)
  · intro c hc
    exact h c (List.mem_reverse.mp (List.mem_of_mem_head? hc))

/-- More blanks at the ends of a text make no difference. -/
theorem trim_append {before after : List Char} (hbefore : Blanks before) (hafter : Blanks after)
    (text : List Char) : trim (before ++ text ++ after) = trim text := by
  have hstrips := strips_trim text
  obtain ⟨inner, outer, htext, hinner, houter⟩ := hstrips.around
  have hsplit : before ++ text ++ after = (before ++ inner) ++ trim text ++ (outer ++ after) := by
    calc before ++ text ++ after
        = before ++ (inner ++ trim text ++ outer) ++ after := by rw [← htext]
      _ = (before ++ inner) ++ trim text ++ (outer ++ after) := by simp only [List.append_assoc]
  exact trim_of_strips ⟨⟨_, _, hsplit, hbefore.append hinner, houter.append hafter⟩,
    hstrips.start, hstrips.stop⟩

/-- What is not blank is never trimmed. -/
theorem mem_trim_of_not_blank {text : List Char} {c : Char} (hc : c ∈ text)
    (hvisible : isBlank c = false) : c ∈ trim text := by
  obtain ⟨before, after, htext, hbefore, hafter⟩ := (strips_trim text).around
  rw [htext, List.append_assoc, List.mem_append, List.mem_append] at hc
  rcases hc with hc | hc | hc
  · rw [hbefore c hc] at hvisible
    cases hvisible
  · exact hc
  · rw [hafter c hc] at hvisible
    cases hvisible

end Fibonacci.Text
