/-
What a run touches, and when.

The report is the only thing that a run writes besides lines on its two channels, and it
is the last thing that it does. So a run that fails, at whichever stage, leaves the
files alone and shows no report; a report is never out before the value is; and the only
place of the tree that can differ in the end is the one that the report was asked to be
written to.

A run that is stopped has done no more than a part of this, and has no report out either:
it is stopped where it starts, or over the message of a failure.
-/
import Fibonacci.Proofs.Files
import Fibonacci.Proofs.Outcome
import Fibonacci.Proofs.Sources
import Fibonacci.Proofs.SpecGrammar

set_option autoImplicit false

namespace Fibonacci

/-! ## The file that a report is asked for -/

/-- Only a JSON report goes to a file. -/
theorem Report.Spec.format_of_file {text : List Char} {format : Report.Format} {path : String}
    (h : ofTrimmed text = .ok (some ⟨format, .file path⟩)) : format = .json := by
  rcases ofTrimmed_eq_ok_iff.mp h with _ | _ | _ | _ | _ | given
  rfl

theorem Settings.format_of_file {overrides : Overrides} {config : Config}
    {settings : Settings} {format : Report.Format} {path : String}
    (h : resolve overrides config = .ok settings)
    (hreport : settings.report = some ⟨format, .file path⟩) : format = .json := by
  have hresolve := (resolve_eq_ok_iff.mp h).2.2
  rw [hreport] at hresolve
  unfold resolveReport at hresolve
  split at hresolve
  · rename_i text _
    cases hparse : Report.Spec.parse text with
    | error fault =>
      rw [hparse] at hresolve
      cases hresolve
    | ok spec =>
      rw [hparse] at hresolve
      cases hresolve
      exact Report.Spec.format_of_file hparse
  · cases hresolve

namespace Program

/-! ## Where the report stands among the effects -/

section
variable {environment : Environment} {args : Command.EvalArgs} {w : World}
  {filter : Log.Filter} {ending : Ending} {effect : Effect}

/-- On the way there are events only. -/
theorem Ending.isLog_of_mem_notes {path : Option String} {nanoseconds : Nat}
    (h : effect ∈ ending.notes filter path nanoseconds) : effect.IsLog := by
  have hloading : effect ∈ loadingNotes filter path → effect.IsLog := by
    intro he
    cases path with
    | none => cases he
    | some path => exact isLog_of_mem_noted he
  cases ending with
  | unconfigured cause => exact hloading h
  | unsettled cause => exact hloading h
  | refused settings =>
    rcases List.mem_append.mp h with h | h
    · exact hloading h
    · exact isLog_of_mem_noted h
  | _ =>
    rcases List.mem_append.mp h with h | h
    · rcases List.mem_append.mp h with h | h
      · exact hloading h
      · exact isLog_of_mem_noted h
    · exact isLog_of_mem_noted h

theorem Ending.not_isReport_of_mem_printing (h : effect ∈ ending.printing) :
    ¬ effect.IsReport := by
  cases ending with
  | unreported settings destination cause =>
    rw [List.mem_singleton.mp h]
    exact id
  | done settings files =>
    rw [List.mem_singleton.mp h]
    exact id
  | _ => cases h

/-- Up to the value there is no report. -/
theorem not_isReport_of_mem_up_to_value {path : Option String} {nanoseconds : Nat}
    (h : effect ∈ complaining environment w ++ ending.notes filter path nanoseconds
      ++ ending.printing) : ¬ effect.IsReport := by
  rcases List.mem_append.mp h with h | h
  · rcases List.mem_append.mp h with h | h
    · exact (isLog_of_mem_complaining h).not_isReport
    · exact (Ending.isLog_of_mem_notes h).not_isReport
  · exact Ending.not_isReport_of_mem_printing h

/-- A run that is stopped at its start has no report out. -/
theorem not_isReport_of_mem_stopped {cause : Crash}
    (h : effect ∈ complaining environment w ++ [.diagnosed (.crash cause)]) :
    ¬ effect.IsReport := by
  rcases List.mem_append.mp h with h | h
  · exact (isLog_of_mem_complaining h).not_isReport
  · rw [List.mem_singleton.mp h]
    exact id

/-- A report among the effects of a run is its report, and so the run has come to its
last ending. -/
theorem mem_reporting_of_isReport (h : effect ∈ effectsOf environment args w filter ending)
    (hreport : effect.IsReport) : effect ∈ ending.reporting w.nextTime := by
  unfold effectsOf at h
  rcases List.mem_append.mp h with h | h
  · rcases List.mem_append.mp h with h | h
    · exact absurd hreport (not_isReport_of_mem_up_to_value h)
    · exact h
  · exact absurd hreport (not_isReport_of_mem_told h)

theorem Ending.reporting_of_failure {failure : Failure} (h : ending.failure = some failure)
    (nanoseconds : Nat) : ending.reporting nanoseconds = [] := by
  cases ending with
  | done settings files => cases h
  | _ => rfl

theorem Ending.files_of_failure {failure : Failure} (h : ending.failure = some failure)
    (before : FileTree) : ending.files before = before := by
  cases ending with
  | done settings files => cases h
  | _ => rfl

/-- A report never stands before the value: what comes before it holds the line with the
value. Everything up to that line is a stretch without reports, so a report that comes
before the end of the stretch would be in it. -/
theorem printed_before_report {before after : List Effect}
    (hends : Ends environment args w ending)
    (hsplit : effectsOf environment args w filter ending = before ++ effect :: after)
    (hreport : effect.IsReport) :
    ∃ settings, Prints environment args w settings
      ∧ .printed (valueLine settings) ∈ before := by
  have hmem : effect ∈ ending.reporting w.nextTime :=
    mem_reporting_of_isReport (by rw [hsplit]; simp) hreport
  have hprinting : ∃ settings, Prints environment args w settings
      ∧ ending.printing = [.printed (valueLine settings)] := by
    rcases hends.printing_cases with hprints | hnone
    · exact hprints
    · cases hends with
      | unreported resolves fits takes _ _ => cases hnone
      | done resolves fits takes _ => cases hnone
      | _ => cases hmem
  obtain ⟨settings, hprints, hline⟩ := hprinting
  refine ⟨settings, hprints, ?_⟩
  -- the effects are the stretch up to the value and then the report and the failure
  rw [effectsOf, List.append_assoc, List.append_eq_append_iff] at hsplit
  rcases hsplit with ⟨between, hbefore, -⟩ | ⟨rest, hstretch, hrest⟩
  · rw [hbefore, hline]
    simp
  · cases rest with
    | nil =>
      -- the report is the first thing after the stretch
      rw [List.append_nil] at hstretch
      rw [← hstretch, hline]
      simp
    | cons first rest =>
      -- the report would stand inside the stretch, where there is none
      obtain ⟨rfl, -⟩ := List.cons.inj hrest
      have hin : effect ∈ complaining environment w ++ ending.notes filter
          (Config.choosePath args.config environment.config) w.nextTime
          ++ ending.printing := by
        rw [hstretch]
        simp
      exact absurd hreport (not_isReport_of_mem_up_to_value hin)

/-! ## Which files an ending can change -/

/-- The files in the end are those of the start, or come from writing the report where
the settings ask for it. -/
theorem Ends.files_cases (h : Ends environment args w ending) :
    ending.files w.files = w.files
    ∨ ∃ settings path text, Resolves w.files environment args settings
        ∧ settings.report = some ⟨.json, .file path⟩
        ∧ w.files.writeText path text = .ok (ending.files w.files) := by
  cases h with
  | done resolves fits takes stored =>
    cases stored with
    | off _ => exact .inl rfl
    | shown _ _ => exact .inl rfl
    | filed inFile written =>
      obtain ⟨config, hconfig, hsettings⟩ := resolves
      obtain rfl := Settings.format_of_file hsettings inFile
      exact .inr ⟨_, _, _, ⟨config, hconfig, hsettings⟩, inFile, written⟩
  | _ => exact .inl rfl

end

/-! ## A run that fails before its value is out -/

/-- Such a run tells its failure and leaves everything else as it was. -/
theorem run_of_failure {arguments : List String} {environment : Environment}
    {args : Command.EvalArgs} {w : World} {ending : Ending} {failure : Failure}
    (parsed : Command.Invocation.parse arguments = .ok (.evaluate args))
    (lossy : environment.libraries.ReadsLossily environment.filter)
    (notices : w.TakesNotices) (h : Ends environment args w ending)
    (hfailure : ending.failure = some failure) (hprinting : ending.printing = []) :
    ∃ final, (run arguments environment : StateM World UInt32).run w = (failed, final)
      ∧ final.output = w.output ∧ final.files = w.files
      ∧ final.diagnostics.getLast?
        = some (.text (errorLine environment.libraries failure)) := by
  obtain ⟨filter, started⟩ := exists_start_eq_ok notices lossy
  obtain ⟨hstatus, hfiles, heffects⟩ := of_ends parsed started h
  refine ⟨worldOf arguments environment w, ?_, output_of_not_printing heffects hprinting, ?_,
    getLast?_diagnostics_of_failure notices heffects hfailure⟩
  · rw [hfailure, statusFor_some notices] at hstatus
    exact Prod.ext hstatus rfl
  · rw [hfiles, Ending.files_of_failure hfailure]

/-! ## Main statement -/

/-- For every command line that asks for an evaluation, every environment and every
world. A run that fails, at any stage, leaves the files as they were and puts no report
anywhere. A report comes only after the line with the value has been taken by standard
output. And whatever comes of the run, the tree can differ only at the place that the
report was asked to be written to, as JSON. -/
theorem run_writes_only_the_report (arguments : List String) (environment : Environment)
    (args : Command.EvalArgs) (w : World)
    (parsed : Command.Invocation.parse arguments = .ok (.evaluate args)) :
    ∃ (status : UInt32) (final : World) (done : List Effect),
      (run arguments environment : StateM World UInt32).run w = (status, final)
      ∧ final.effects = w.effects ++ done
      ∧ (status ≠ 0 → final.files = w.files ∧ ∀ effect ∈ done, ¬ effect.IsReport)
      ∧ (∀ before effect after, done = before ++ effect :: after → effect.IsReport →
          ∃ settings, Prints environment args w settings
            ∧ .printed (toString (Nat.fib settings.n.toNat) ++ "\n") ∈ before)
      ∧ (∀ place, final.files.lookup place ≠ w.files.lookup place →
          ∃ settings path, Resolves w.files environment args settings
            ∧ settings.report = some ⟨.json, .file path⟩ ∧ w.files.Names path place)
      ∧ final.files.workingDirectory = w.files.workingDirectory := by
  rcases started : start environment w with crash | filter
  · -- such a run has only complained
    refine ⟨_, _, _, run_of_stopped arguments started, rfl,
      fun _ => ⟨rfl, fun effect => not_isReport_of_mem_stopped⟩, ?_, ?_, rfl⟩
    · intro before effect after hsplit hreport
      exact absurd hreport (not_isReport_of_mem_stopped (by rw [hsplit]; simp))
    · intro place hplace
      exact absurd rfl hplace
  · obtain ⟨ending, hends⟩ := exists_ends environment args w
    refine ⟨_, _, _, run_of_ends parsed started hends, rfl, ?_, ?_, ?_, ?_⟩
    · intro hstatus
      cases hfailure : ending.failure with
      | none => exact absurd (statusFor_eq_succeeded_iff.mpr hfailure) hstatus
      | some failure =>
        refine ⟨Ending.files_of_failure hfailure _, ?_⟩
        -- a report could only stand in the stretch of the report, which is empty here
        intro effect heffect hreport
        have hmem := mem_reporting_of_isReport heffect hreport
        rw [Ending.reporting_of_failure hfailure] at hmem
        cases hmem
    · intro before effect after hsplit hreport
      exact printed_before_report hends hsplit hreport
    · intro place hplace
      rcases hends.files_cases with hsame | ⟨settings, path, text, resolves, inFile, written⟩
      · exact absurd (congrArg (·.lookup place) hsame) hplace
      · refine ⟨settings, path, resolves, inFile, ?_⟩
        by_contra hnames
        exact hplace (FileTree.lookup_writeText_of_not_names written hnames)
    · rcases hends.files_cases with hsame | ⟨settings, path, text, -, -, written⟩
      · exact congrArg (·.workingDirectory) hsame
      · exact FileTree.workingDirectory_writeText written

/-- With standard output full the number has been computed and the report could be
written, and still nothing is. -/
theorem run_with_full_output :
    ∃ (final : World) (done : List Effect),
      (run ["10", "--report=json:r.json"] {} : StateM World UInt32).run
        { files := .fresh, outputFull := true } = (1, final)
      ∧ final.effects = done ∧ final.files = .fresh ∧ ∀ effect ∈ done, ¬ effect.IsReport := by
  have parsed : Command.Invocation.parse ["10", "--report=json:r.json"]
      = .ok (.evaluate { n := some "10", report := some "json:r.json" }) := by
    decide +kernel
  have resolves : Resolves FileTree.fresh {}
      { n := some "10", report := some "json:r.json" }
      ⟨10, .naive, some ⟨.json, .file "r.json"⟩⟩ := by
    refine ⟨{}, rfl, ?_⟩
    decide +kernel
  obtain ⟨status, final, done, hrun, heffects, hfailed, -⟩ :=
    run_writes_only_the_report _ {} _ { files := .fresh, outputFull := true } parsed
  have hstatus : status = 1 :=
    (of_run_eq parsed rfl hrun (.unprinted resolves (by decide) rfl)).1
  obtain ⟨hfiles, hreports⟩ := hfailed (by rw [hstatus]; decide)
  exact ⟨final, done, by rw [hrun, hstatus], heffects, hfiles, hreports⟩

end Program
end Fibonacci
