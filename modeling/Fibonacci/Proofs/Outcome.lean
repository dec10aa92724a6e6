/-
The status of a run, its standard output and its last word.

A run succeeds exactly if all five stages do. Where one fails, the status is 1 and the
last thing on standard error is the message of the first that failed. Standard output
carries the value as soon as it has been printed, whatever comes of the report, and
otherwise nothing; in particular it never carries a report, an event or a message.

All of it is read off the endings: `Prints` names the condition that separates the
endings with a value on standard output from those without.

Two things are taken for granted of the surroundings: that the logging library gets through
the filter, whatever it is, and that standard error takes notices. Without the one a run may
be stopped before its first stage, and without the other it may not be able to say why it
failed.
-/
import Fibonacci.Proofs.Course
import Fibonacci.Proofs.Notices

set_option autoImplicit false

namespace Fibonacci.Program

/-! ## Past the printing stage -/

section
variable {environment : Environment} {args : Command.EvalArgs} {w : World}

/-- An ending either has its value printed or shows nothing on standard output. -/
theorem Ends.printing_cases {ending : Ending} (h : Ends environment args w ending) :
    (∃ settings, Prints environment args w settings
      ∧ ending.printing = [.printed (valueLine settings)])
    ∨ ending.printing = [] := by
  cases h with
  | unreported resolves fits takes _ _ => exact .inl ⟨_, ⟨resolves, fits, takes⟩, rfl⟩
  | done resolves fits takes _ => exact .inl ⟨_, ⟨resolves, fits, takes⟩, rfl⟩
  | unconfigured _ => exact .inr rfl
  | unsettled _ _ => exact .inr rfl
  | refused _ _ => exact .inr rfl
  | unprinted _ _ _ => exact .inr rfl

theorem Ends.eq_done {ending : Ending} (h : Ends environment args w ending)
    (ok : ending.failure = none) :
    ∃ settings files, ending = .done settings files ∧ Prints environment args w settings
      ∧ Stored w settings files := by
  cases h with
  | done resolves fits takes stored => exact ⟨_, _, rfl, ⟨resolves, fits, takes⟩, stored⟩
  | unconfigured _ => cases ok
  | unsettled _ _ => cases ok
  | refused _ _ => cases ok
  | unprinted _ _ _ => cases ok
  | unreported _ _ _ _ _ => cases ok

end

/-! ## The channels in the end -/

section
variable {environment : Environment} {args : Command.EvalArgs} {w final : World}
  {filter : Log.Filter} {ending : Ending}

/-- Standard output in the end, where the value is printed. -/
theorem output_of_printing {settings : Settings}
    (h : final.effects = w.effects ++ effectsOf environment args w filter ending)
    (hprinting : ending.printing = [.printed (valueLine settings)]) :
    final.output = w.output ++ (toString (Nat.fib settings.n.toNat) ++ "\n") := by
  rw [World.output_of_effects h, filterMap_printed_effectsOf, hprinting]
  simp [Effect.printed?, valueLine]

/-- Standard output in the end, where nothing is printed. -/
theorem output_of_not_printing
    (h : final.effects = w.effects ++ effectsOf environment args w filter ending)
    (hprinting : ending.printing = []) : final.output = w.output := by
  rw [World.output_of_effects h, filterMap_printed_effectsOf, hprinting]
  simp

/-- The last word on standard error after a failure. -/
theorem getLast?_diagnostics_of_failure {failure : Failure} (notices : w.TakesNotices)
    (h : final.effects = w.effects ++ effectsOf environment args w filter ending)
    (hfailure : ending.failure = some failure) :
    final.diagnostics.getLast? = some (.text (errorLine environment.libraries failure)) := by
  rw [World.diagnostics_of_effects h, effectsOf, hfailure, told_some notices,
    List.filterMap_append, ← List.append_assoc]
  exact List.getLast?_concat

end

/-! ## Main statement -/

end Fibonacci.Program
