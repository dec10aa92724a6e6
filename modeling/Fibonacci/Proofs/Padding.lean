/-
Blanks around the texts of the settings.

Three texts are read from outside: an index, the name of an algorithm and what asks for a
report. Each reader trims its text before it looks at anything, and a refusal has the trimmed
text in it and not the text that was given. So more blanks at either end change nothing, not
even the words of a refusal; and that holds of a text that is blank altogether or has blanks
at its ends already, because trimming takes the old blanks and the new ones alike
(`Text.trim_append`).

In the settings every text is padded on its own. What is not a text, the algorithm of the
command line and the index of the file, stays as it is.
-/
import Fibonacci.Proofs.Trimming
import Fibonacci.Settings

set_option autoImplicit false

namespace Fibonacci

/-! ## Padded texts -/

/-- The first text is the second with blanks before and after it. -/
def Text.Pads (padded text : String) : Prop :=
  ∃ before after, padded = before ++ text ++ after
    ∧ Text.Blanks before.toList ∧ Text.Blanks after.toList

theorem Text.Pads.trim_eq {padded text : String} (h : Text.Pads padded text) :
    Text.trim padded.toList = Text.trim text.toList := by
  obtain ⟨before, after, rfl, hbefore, hafter⟩ := h
  rw [String.toList_append, String.toList_append, Text.trim_append hbefore hafter]

theorem Index.parse_of_pads {padded text : String} (h : Text.Pads padded text) :
    Index.parse padded = Index.parse text := by
  rw [Index.parse, Index.parse, h.trim_eq]

theorem Algorithm.parse_of_pads {padded text : String} (h : Text.Pads padded text) :
    Algorithm.parse padded = Algorithm.parse text := by
  rw [Algorithm.parse, Algorithm.parse, h.trim_eq]

theorem Report.Spec.parse_of_pads {padded text : String} (h : Text.Pads padded text) :
    Report.Spec.parse padded = Report.Spec.parse text := by
  rw [Report.Spec.parse, Report.Spec.parse, h.trim_eq]

/-! ## Padded settings -/

/-- The same command line with blanks around its texts. -/
structure Overrides.Pads (padded overrides : Overrides) : Prop where
  n : Option.Rel Text.Pads padded.n overrides.n
  algorithm : padded.algorithm = overrides.algorithm
  report : Option.Rel Text.Pads padded.report overrides.report

/-- The same configuration with blanks around its texts. -/
structure Config.Pads (padded config : Config) : Prop where
  n : padded.n = config.n
  algorithm : Option.Rel Text.Pads padded.algorithm config.algorithm
  report : Option.Rel Text.Pads padded.report config.report

namespace Settings

theorem resolveIndex_of_pads {padded option : Option String}
    (h : Option.Rel Text.Pads padded option) (file : Option Int64) :
    resolveIndex padded file = resolveIndex option file := by
  cases h with
  | none => rfl
  | some hpads => exact congrArg (Except.mapError Error.index) (Index.parse_of_pads hpads)

theorem resolveAlgorithm_of_pads {padded file : Option String}
    (h : Option.Rel Text.Pads padded file) (option : Option Algorithm) :
    resolveAlgorithm option padded = resolveAlgorithm option file := by
  cases h with
  | none => rfl
  | some hpads =>
    rcases option with _ | algorithm
    · exact congrArg (Except.mapError Error.fileAlgorithm) (Algorithm.parse_of_pads hpads)
    · rfl

/-- Padding does not change which of two sources speaks, since it makes no text from none. -/
theorem rel_or {α : Type} {R : α → α → Prop} {padded option padded' file : Option α}
    (h : Option.Rel R padded option) (h' : Option.Rel R padded' file) :
    Option.Rel R (padded.or padded') (option.or file) := by
  cases h with
  | none => exact h'
  | some hpads => exact .some hpads

theorem resolveReport_of_pads {padded option padded' file : Option String}
    (h : Option.Rel Text.Pads padded option) (h' : Option.Rel Text.Pads padded' file) :
    resolveReport padded padded' = resolveReport option file := by
  have hfirst := rel_or h h'
  unfold resolveReport
  generalize padded.or padded' = first at hfirst ⊢
  generalize option.or file = first' at hfirst ⊢
  cases hfirst with
  | none => rfl
  | some hpads => exact congrArg (Except.mapError Error.report) (Report.Spec.parse_of_pads hpads)

theorem resolve_of_pads {overrides padded : Overrides} {config padded' : Config}
    (h : padded.Pads overrides) (h' : padded'.Pads config) :
    resolve padded padded' = resolve overrides config := by
  unfold resolve
  rw [resolveIndex_of_pads h.n, h'.n, h.algorithm, resolveAlgorithm_of_pads h'.algorithm,
    resolveReport_of_pads h.report h'.report]

end Settings

/-! ## Main statement -/

/-- For every text and whatever blanks stand before and after it. Read as an index, as the
name of an algorithm or as what asks for a report, it comes to the same with the blanks as
without, be that a value or a refusal with its words. So settings come to the same whatever
blanks stand around the texts on the command line and in the configuration. -/
theorem parse_and_resolve_ignore_padding (u s w : String) (hu : Text.Blanks u.toList)
    (hw : Text.Blanks w.toList) :
    Index.parse (u ++ s ++ w) = Index.parse s
    ∧ Algorithm.parse (u ++ s ++ w) = Algorithm.parse s
    ∧ Report.Spec.parse (u ++ s ++ w) = Report.Spec.parse s
    ∧ ∀ (overrides padded : Overrides) (config padded' : Config), padded.Pads overrides →
        padded'.Pads config →
        Settings.resolve padded padded' = Settings.resolve overrides config := by
  have hpads : Text.Pads (u ++ s ++ w) s := ⟨u, w, rfl, hu, hw⟩
  refine ⟨Index.parse_of_pads hpads, Algorithm.parse_of_pads hpads,
    Report.Spec.parse_of_pads hpads, ?_⟩
  intro overrides padded config padded' h h'
  exact Settings.resolve_of_pads h h'

/-- Blanks of three kinds around a text that has some already and is refused, and around the
texts of settings whose algorithm is refused. -/
theorem parse_and_resolve_ignore_blanks_of_three_kinds :
    Index.parse ("\u3000\t" ++ " 1 2\u00a0" ++ "\n")
      = .error (.invalidArgument "'1 2' is not a non-negative integer")
    ∧ Report.Spec.parse ("\u3000\t" ++ " 1 2\u00a0" ++ "\n") = .error (.unknown "1 2".toList)
    ∧ Settings.resolve { n := some "\u20283\t", report := some " json:r\n" }
        { algorithm := some "\u3000fast" }
      = .error (.fileAlgorithm (.invalidArgument
          "unknown algorithm 'fast' (expected 'naive' or 'iterative')")) := by
  obtain ⟨hindex, -, hreport, hresolve⟩ :=
    parse_and_resolve_ignore_padding "\u3000\t" " 1 2\u00a0" "\n" (by decide +kernel)
      (by decide +kernel)
  refine ⟨?_, ?_, ?_⟩
  · rw [hindex]
    decide +kernel
  · rw [hreport]
    decide +kernel
  · have hn : Text.Pads "\u20283\t" "3" := ⟨"\u2028", "\t", by decide +kernel⟩
    have hspec : Text.Pads " json:r\n" "json:r" := ⟨" ", "\n", by decide +kernel⟩
    have hname : Text.Pads "\u3000fast" "fast" := ⟨"\u3000", "", by decide +kernel⟩
    have hsame := hresolve { n := some "3", report := some "json:r" }
      { n := some "\u20283\t", report := some " json:r\n" } { algorithm := some "fast" }
      { algorithm := some "\u3000fast" } ⟨.some hn, rfl, .some hspec⟩ ⟨rfl, .some hname, .none⟩
    rw [hsame]
    decide +kernel

end Fibonacci
