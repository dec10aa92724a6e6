/-
The sources of the settings.

Settings are resolved one by one, and each looks at one source only. So they are good
exactly if each of the three is (`resolve_eq_ok_iff`), and two configurations resolve to
the same wherever they agree on the keys that the command line leaves to them
(`resolve_congr`): the other keys are not looked at, not even to be refused.

The index comes first. What follows it does not depend on where it came from, and has
failures of its own (`resolveAt`).
-/
import Fibonacci.Settings

set_option autoImplicit false

namespace Fibonacci.Settings

/-- The settings are good exactly if each of them is. -/
theorem resolve_eq_ok_iff {overrides : Overrides} {config : Config} {settings : Settings} :
    resolve overrides config = .ok settings
      ↔ resolveIndex overrides.n config.n = .ok settings.n
        ∧ resolveAlgorithm overrides.algorithm config.algorithm = .ok settings.algorithm
        ∧ resolveReport overrides.report config.report = .ok settings.report := by
  unfold resolve
  constructor
  · intro h
    rcases hn : resolveIndex overrides.n config.n with cause | n
    · rw [hn] at h
      cases h
    · rcases halgorithm : resolveAlgorithm overrides.algorithm config.algorithm
        with cause | algorithm
      · rw [hn, halgorithm] at h
        cases h
      · rcases hreport : resolveReport overrides.report config.report with cause | report
        · rw [hn, halgorithm, hreport] at h
          cases h
        · rw [hn, halgorithm, hreport] at h
          cases h
          exact ⟨rfl, rfl, rfl⟩
  · rintro ⟨hn, halgorithm, hreport⟩
    rw [hn, halgorithm, hreport]
    rfl

/-- Two configurations agree on every key that is not overridden. -/
structure AgreeUnder (overrides : Overrides) (config other : Config) : Prop where
  n : overrides.n = none → config.n = other.n
  algorithm : overrides.algorithm = none → config.algorithm = other.algorithm
  report : overrides.report = none → config.report = other.report

/-- What an override hides is not looked at. -/
theorem resolve_congr {overrides : Overrides} {config other : Config}
    (h : AgreeUnder overrides config other) :
    resolve overrides config = resolve overrides other := by
  have hn : resolveIndex overrides.n config.n = resolveIndex overrides.n other.n := by
    rcases hsource : overrides.n with _ | text
    · rw [h.n hsource]
    · rfl
  have halgorithm : resolveAlgorithm overrides.algorithm config.algorithm
      = resolveAlgorithm overrides.algorithm other.algorithm := by
    rcases hsource : overrides.algorithm with _ | algorithm
    · rw [h.algorithm hsource]
    · rfl
  have hreport : resolveReport overrides.report config.report
      = resolveReport overrides.report other.report := by
    rcases hsource : overrides.report with _ | text
    · rw [h.report hsource]
    · rfl
  unfold resolve
  rw [hn, halgorithm, hreport]

/-! ## Past the index -/

/-- The settings once the index is known. -/
def resolveAt (n : UInt32) (overrides : Overrides) (config : Config) : Except Error Settings := do
  let algorithm ← resolveAlgorithm overrides.algorithm config.algorithm
  let report ← resolveReport overrides.report config.report
  return ⟨n, algorithm, report⟩

theorem resolve_of_index_ok {overrides : Overrides} {config : Config} {n : UInt32}
    (h : resolveIndex overrides.n config.n = .ok n) :
    resolve overrides config = resolveAt n overrides config := by
  rw [resolve, h]
  rfl

theorem resolve_of_index_error {overrides : Overrides} {config : Config} {cause : Error}
    (h : resolveIndex overrides.n config.n = .error cause) :
    resolve overrides config = .error cause := by
  rw [resolve, h]
  rfl

theorem exists_eq_of_mapError {ε ε' α : Type} {x : Except ε α} {f : ε → ε'} {cause : ε'}
    (h : x.mapError f = .error cause) : ∃ fault, cause = f fault := by
  rcases x with fault | value
  · exact ⟨fault, (Except.error.inj h).symm⟩
  · cases h

theorem eq_fileAlgorithm_of_resolveAlgorithm {option : Option Algorithm} {file : Option String}
    {cause : Error} (h : resolveAlgorithm option file = .error cause) :
    ∃ fault, cause = .fileAlgorithm fault := by
  unfold resolveAlgorithm at h
  split at h
  · cases h
  · exact exists_eq_of_mapError h
  · cases h

theorem eq_report_of_resolveReport {option file : Option String} {cause : Error}
    (h : resolveReport option file = .error cause) : ∃ fault, cause = .report fault := by
  unfold resolveReport at h
  split at h
  · exact exists_eq_of_mapError h
  · cases h

/-- Past the index a failure is that of the algorithm or of the report. -/
theorem resolveAt_eq_error {n : UInt32} {overrides : Overrides} {config : Config}
    {cause : Error} (h : resolveAt n overrides config = .error cause) :
    (∃ fault, cause = .fileAlgorithm fault) ∨ ∃ fault, cause = .report fault := by
  unfold resolveAt at h
  rcases halgorithm : resolveAlgorithm overrides.algorithm config.algorithm with bad | algorithm
  · rw [halgorithm] at h
    obtain rfl : bad = cause := Except.error.inj h
    exact .inl (eq_fileAlgorithm_of_resolveAlgorithm halgorithm)
  · rcases hreport : resolveReport overrides.report config.report with bad | report
    · rw [halgorithm, hreport] at h
      obtain rfl : bad = cause := Except.error.inj h
      exact .inr (eq_report_of_resolveReport hreport)
    · rw [halgorithm, hreport] at h
      cases h

end Fibonacci.Settings
