/-
What stands on standard error besides events.

There are three kinds of texts: complaints about the filter, the report, and the message
of a failure. A report has to be told from the others, and its first character does it: a
report starts with `=` or with a brace, and none of the others does.

The complaints and the message are notices. The program prints them without expecting that
they could be refused, and is stopped where they are; a report that is refused is a failure
like any other. A standard error that refuses no notice (`World.TakesNotices`) stops no
run, whichever reports it takes.
-/
import Fibonacci.Proofs.Surroundings

set_option autoImplicit false

namespace Fibonacci

/-! ## Telling a report from other texts -/

/-- Trimming at the end keeps a first character that is not blank. -/
theorem Text.head?_trimEnd_cons {c : Char} (text : List Char) (h : isBlank c = false) :
    (trimEnd (c :: text)).head? = some c := by
  unfold trimEnd
  -- seen from the end, `c` comes last: either trimming reaches it and stops there, or it
  -- stops before and `c` stays where it is
  rw [List.reverse_cons, List.dropWhile_append, List.head?_reverse]
  split
  · simp [h]
  · exact List.getLast?_concat

/-- The first character of a report on standard error. -/
theorem Report.head?_renderLine (report : Report) (format : Report.Format) :
    (report.renderLine format).toList.head? = some '='
    ∨ (report.renderLine format).toList.head? = some '\x7b' := by
  have hline : (report.renderLine format).toList
      = Text.trimEnd (report.renderChars format) ++ ['\n'] := by
    rw [renderLine, String.toList_ofList]
  rw [hline]
  cases format with
  | human =>
    obtain ⟨rest, hrest⟩ : ∃ rest, report.renderChars .human = '=' :: rest := ⟨_, rfl⟩
    rw [hrest, List.head?_append, Text.head?_trimEnd_cons rest (by decide)]
    exact .inl rfl
  | json =>
    obtain ⟨rest, hrest⟩ : ∃ rest, report.renderChars .json = '\x7b' :: rest := ⟨_, rfl⟩
    rw [hrest, List.head?_append, Text.head?_trimEnd_cons rest (by decide)]
    exact .inr rfl

/-- Every complaint about the filter starts with the same letter. -/
theorem Log.Complaint.head?_text (c : Complaint) : c.text.toList.head? = some 'i' := by
  simp [text]

/-- So does every message of a failure, with another. -/
theorem Program.head?_errorLine (libraries : Libraries) (failure : Failure) :
    (errorLine libraries failure).toList.head? = some 'E' := by
  simp [errorLine]

/-- The effects that put a report somewhere: a file that is written, or a report's text
on standard error. -/
def Effect.IsReport : Effect → Prop
  | .wrote _ _ => True
  | .diagnosed (.text text) =>
    ∃ (report : Report) (format : Report.Format), text = report.renderLine format
  | _ => False

/-- A text with another first character is no report. -/
theorem Effect.not_isReport_of_head? {text : String} {c : Char}
    (h : text.toList.head? = some c) (heq : c ≠ '=') (hbrace : c ≠ '\x7b') :
    ¬ (Effect.diagnosed (.text text)).IsReport := by
  rintro ⟨report, format, rfl⟩
  rcases report.head?_renderLine format with hreport | hreport
  · rw [hreport] at h
    exact heq (Option.some.inj h).symm
  · rw [hreport] at h
    exact hbrace (Option.some.inj h).symm

/-- The effects of logging: events that are recorded, and complaints about a filter. -/
inductive Effect.IsLog : Effect → Prop
  | event (e : Log.Event) : IsLog (.diagnosed (.event e))
  | complaint (c : Log.Complaint) : IsLog (.diagnosed (.text c.text))

theorem Effect.IsLog.not_isReport {effect : Effect} (h : effect.IsLog) : ¬ effect.IsReport := by
  rcases h with e | c
  · exact id
  · exact not_isReport_of_head? c.head?_text (by decide) (by decide)

/-! ## Notices -/

/-- Standard error refuses nothing but, perhaps, reports. -/
def World.TakesNotices (w : World) : Prop :=
  ∀ text cause, w.errorRefuses text = some cause →
    ∃ (report : Report) (format : Report.Format), text = report.renderLine format

namespace World.TakesNotices

variable {w : World} (h : w.TakesNotices)
include h

theorem of_not_isReport {text : String} (hnot : ¬ (Effect.diagnosed (.text text)).IsReport) :
    w.errorRefuses text = none := by
  rcases hrefused : w.errorRefuses text with _ | cause
  · rfl
  · exact absurd (h text cause hrefused) hnot

theorem complaint (c : Log.Complaint) : w.errorRefuses c.text = none :=
  h.of_not_isReport (Effect.IsLog.complaint c).not_isReport

theorem errorLine (libraries : Program.Libraries) (failure : Program.Failure) :
    w.errorRefuses (Program.errorLine libraries failure) = none :=
  h.of_not_isReport (Effect.not_isReport_of_head? (Program.head?_errorLine libraries failure)
    (by decide) (by decide))

end World.TakesNotices

namespace Program

section
variable {environment : Environment} {w : World} (notices : w.TakesNotices)
include notices

/-- A run whose filter is read lossily gets past its start. -/
theorem exists_start_eq_ok (lossy : environment.libraries.ReadsLossily environment.filter) :
    ∃ filter, start environment w = .ok filter := by
  obtain ⟨filter, hfilter⟩ : ∃ filter, environment.logging.filter = some filter :=
    Option.isSome_iff_exists.mp lossy
  have hnone : (environment.logging.complaints.findSome? fun c => w.errorRefuses c.text) = none :=
    List.findSome?_eq_none_iff.mpr fun c _ => notices.complaint c
  exact ⟨filter, by rw [start, hnone, hfilter]⟩

theorem statusFor_some (libraries : Libraries) (failure : Failure) :
    statusFor libraries w (some failure) = failed := by
  simp only [statusFor, notices.errorLine]

theorem told_some (libraries : Libraries) (failure : Failure) :
    told libraries w (some failure)
      = [.diagnosed (.text (errorLine libraries failure))] := by
  simp only [told, notices.errorLine]

end

/-- What is told of a failure is no report, also where it cannot be told. -/
theorem not_isReport_of_mem_told {libraries : Libraries} {w : World} {failure : Option Failure}
    {effect : Effect} (h : effect ∈ told libraries w failure) : ¬ effect.IsReport := by
  rcases failure with _ | failure
  · cases h
  · unfold told at h
    dsimp only at h
    split at h
    · rw [List.mem_singleton.mp h]
      exact Effect.not_isReport_of_head? (head?_errorLine libraries failure) (by decide)
        (by decide)
    · rw [List.mem_singleton.mp h]
      exact id

theorem isLog_of_mem_complaining {environment : Environment} {w : World} {effect : Effect}
    (h : effect ∈ complaining environment w) : effect.IsLog := by
  obtain ⟨c, -, rfl⟩ := List.mem_map.mp h
  exact .complaint c

theorem isLog_of_mem_noted {filter : Log.Filter} {e : Log.Event} {effect : Effect}
    (h : effect ∈ noted filter e) : effect.IsLog := by
  rw [eq_event_of_mem_noted h]
  exact .event e

end Program
end Fibonacci
