/-
Diagnostics do not touch results.

Two runs that differ only in the filter for events differ only in their log. The log of
a run is a stretch of its own and comes first: complaints about the filter, then events.
What follows it, the `Upshot`, is the same under every filter, although the filter
decides which of two recursions computes the value; both give the same, and where a
report is asked for the calls are counted in any case. Only the start of a run can tell two
filters apart: one that the logging library does not get through, or a complaint that
standard error refuses, stops the run there.

The report is the other thing that switches counting on. Two evaluations that differ
only in which report they ask for end the same way and print the same, as long as
neither report is refused. And whether a report shows calls is a matter of the algorithm
alone.
-/
import Fibonacci.Proofs.Footprint
import Fibonacci.Proofs.ReportText
import Fibonacci.Proofs.Suite

set_option autoImplicit false

namespace Fibonacci

/-! ## The log -/

theorem Effect.IsLog.printed? {effect : Effect} (h : effect.IsLog) : effect.printed? = none := by
  rcases h with e | c <;> rfl

open scoped Classical in
/-- The reports that have been put somewhere, in order. -/
noncomputable def World.reports (w : World) : List Effect :=
  w.effects.filter fun effect => effect.IsReport

namespace Program

theorem isLog_of_mem_caseNotes {filter : Log.Filter} {cases : List Benchmark.Case}
    {times : List ℕ} {effect : Effect} (h : effect ∈ caseNotes filter cases times) :
    effect.IsLog := by
  induction cases generalizing times with
  | nil => cases h
  | cons c cases ih =>
    rcases List.mem_append.mp h with h | h
    · exact isLog_of_mem_noted h
    · exact ih h

/-! ## What a run comes to under every filter -/

/-- What a run comes to, apart from its log. -/
structure Upshot where
  status : UInt32
  files : FileTree
  /-- The times left on the clock. -/
  times : List ℕ
  /-- What is done after logging, in order. -/
  effects : List Effect

/-- The run has this upshot, with a log before it. -/
def ComesTo (arguments : List String) (environment : Environment) (w : World) (u : Upshot) :
    Prop :=
  ∃ logging, (∀ effect ∈ logging, effect.IsLog)
    ∧ (run arguments environment : StateM World UInt32).run w
      = (u.status,
          { w with
            files := u.files
            times := u.times
            effects := w.effects ++ (logging ++ u.effects) })

section
variable (libraries : Libraries) (w : World)

/-- What an evaluation comes to. -/
def Ending.upshot (ending : Ending) : Upshot where
  status := statusFor libraries w ending.failure
  files := ending.files w.files
  times := ending.times w.times
  effects := ending.printing ++ ending.reporting w.nextTime ++ told libraries w ending.failure

/-- What a benchmark comes to. -/
def suiteUpshot (maxNaive : UInt32) : Upshot where
  status := statusFor libraries w (suiteFailure w.outputFull (suiteResults maxNaive w.times))
  files := w.files
  times := w.times.drop (Benchmark.suite maxNaive).length
  effects := suiteLines w.outputFull (suiteResults maxNaive w.times)
    ++ told libraries w (suiteFailure w.outputFull (suiteResults maxNaive w.times))

/-- What comes of a completion script: a standard output that does not take it stops the
run. -/
def scriptUpshot (script : String) : Upshot where
  status := if w.outputFull then crashed else succeeded
  files := w.files
  times := w.times
  effects :=
    if w.outputFull then [.diagnosed (.crash (.script .noSpace))] else [.printed script]

/-- What comes of a text that is printed whether or not standard output takes it. -/
def printUpshot (text : String) : Upshot where
  status := succeeded
  files := w.files
  times := w.times
  effects := if w.outputFull then [] else [.printed text]

/-- What comes of a wrong command line, which is told whether or not standard error takes
it. -/
def misuseUpshot (text : String) : Upshot where
  status := misused
  files := w.files
  times := w.times
  effects := if (w.errorRefuses text).isSome then [] else [.diagnosed (.text text)]

end

section
variable {arguments : List String} {environment : Environment} {w : World}
  {filter : Log.Filter}

theorem comesTo_of_ends {args : Command.EvalArgs} {ending : Ending}
    (parsed : Command.Invocation.parse arguments = .ok (.evaluate args))
    (started : start environment w = .ok filter) (h : Ends environment args w ending) :
    ComesTo arguments environment w (ending.upshot environment.libraries w) := by
  refine ⟨complaining environment w
    ++ ending.notes filter (Config.choosePath args.config environment.config) w.nextTime, ?_, ?_⟩
  · intro effect heffect
    rcases List.mem_append.mp heffect with heffect | heffect
    · exact isLog_of_mem_complaining heffect
    · exact Ending.isLog_of_mem_notes heffect
  · rw [run_of_ends parsed started h]
    simp only [effectsOf, Ending.upshot, List.append_assoc]

theorem comesTo_of_bench {maxNaive : UInt32}
    (parsed : Command.Invocation.parse arguments = .ok (.bench maxNaive))
    (started : start environment w = .ok filter) :
    ComesTo arguments environment w (suiteUpshot environment.libraries w maxNaive) := by
  refine ⟨_, ?_, run_of_bench parsed started⟩
  intro effect heffect
  rcases List.mem_append.mp heffect with heffect | heffect
  · exact isLog_of_mem_complaining heffect
  · exact isLog_of_mem_caseNotes heffect

/-- Where nothing but complaints comes before the effects of a run, they are its log. -/
theorem comesTo_of_run_eq {u : Upshot}
    (h : (run arguments environment : StateM World UInt32).run w
      = (u.status, { w with
          files := u.files
          times := u.times
          effects := w.effects ++ complaining environment w ++ u.effects })) :
    ComesTo arguments environment w u := by
  refine ⟨complaining environment w, fun effect => isLog_of_mem_complaining, ?_⟩
  rw [h, List.append_assoc]

theorem run_print_pure (text : String) (w : World) :
    (Host.print text >>= fun _ => pure succeeded : StateM World UInt32).run w
      = (succeeded, w.after (printUpshot w text).effects) := by
  unfold printUpshot
  rw [StateT.run_bind]
  rcases hfull : w.outputFull with _ | _
  · rw [run_print_of_open text hfull]
    rfl
  · rw [run_print_of_full text hfull]
    exact congrArg _ (World.after_nil w).symm

theorem run_printError_pure (text : String) (w : World) :
    (Host.printError text >>= fun _ => pure misused : StateM World UInt32).run w
      = (misused, w.after (misuseUpshot w text).effects) := by
  unfold misuseUpshot
  rw [StateT.run_bind]
  rcases hrefused : w.errorRefuses text with _ | cause
  · rw [run_printError_of_taken hrefused]
    rfl
  · rw [run_printError_of_refused hrefused]
    exact congrArg _ (World.after_nil w).symm

theorem run_printScript (script : String) (w : World) :
    (printScript script : StateM World UInt32).run w
      = ((scriptUpshot w script).status, w.after (scriptUpshot w script).effects) := by
  unfold printScript scriptUpshot
  rw [StateT.run_bind]
  rcases hfull : w.outputFull with _ | _
  · rw [run_print_of_open script hfull]
    rfl
  · rw [run_print_of_full script hfull]
    rfl

end

/-- Every run has an upshot, and no filter changes it. -/
theorem exists_comesTo (arguments : List String) (config : Option String)
    (libraries : Libraries) (w : World) :
    ∃ u, ∀ value filter, start ⟨config, value, libraries⟩ w = .ok filter →
      ComesTo arguments ⟨config, value, libraries⟩ w u := by
  rcases parsed : Command.Invocation.parse arguments with fault | invocation
  · refine ⟨misuseUpshot w fault.render, fun value filter started => comesTo_of_run_eq ?_⟩
    rw [run_eq, started]
    dsimp only
    unfold obey
    rw [parsed]
    exact run_printError_pure fault.render _
  · rcases invocation with args | maxNaive | shell | topic | _
    · -- an ending knows nothing of the filter, so any will do to find it
      obtain ⟨ending, hends⟩ := exists_ends ⟨config, none, libraries⟩ args w
      exact ⟨ending.upshot libraries w, fun value filter started =>
        comesTo_of_ends parsed started (hends.of_path_eq rfl)⟩
    · exact ⟨suiteUpshot libraries w maxNaive, fun value filter started =>
        comesTo_of_bench parsed started⟩
    · refine ⟨scriptUpshot w (libraries.script shell), fun value filter started =>
        comesTo_of_run_eq ?_⟩
      rw [run_of_started started parsed]
      exact run_printScript _ _
    · refine ⟨printUpshot w topic.text, fun value filter started => comesTo_of_run_eq ?_⟩
      rw [run_of_started started parsed]
      exact run_print_pure topic.text _
    · refine ⟨printUpshot w Command.versionText, fun value filter started =>
        comesTo_of_run_eq ?_⟩
      rw [run_of_started started parsed]
      exact run_print_pure Command.versionText _

/-! ## Two runs compared -/

section
variable {arguments : List String} {environment : Environment} {w : World} {u : Upshot}

theorem ComesTo.statusOf_eq (h : ComesTo arguments environment w u) :
    statusOf arguments environment w = u.status := by
  obtain ⟨logging, -, hrun⟩ := h
  rw [statusOf, hrun]

theorem ComesTo.files_eq (h : ComesTo arguments environment w u) :
    (worldOf arguments environment w).files = u.files := by
  obtain ⟨logging, -, hrun⟩ := h
  rw [worldOf, hrun]

theorem ComesTo.exists_effects_eq (h : ComesTo arguments environment w u) :
    ∃ logging, (∀ effect ∈ logging, effect.IsLog)
      ∧ (worldOf arguments environment w).effects = w.effects ++ (logging ++ u.effects) := by
  obtain ⟨logging, hlog, hrun⟩ := h
  exact ⟨logging, hlog, by rw [worldOf, hrun]⟩

/-- Nothing of a log is on standard output. -/
theorem ComesTo.output_eq (h : ComesTo arguments environment w u) :
    (worldOf arguments environment w).output
      = w.output ++ String.join (u.effects.filterMap Effect.printed?) := by
  obtain ⟨logging, hlog, heffects⟩ := h.exists_effects_eq
  have hnone : logging.filterMap Effect.printed? = [] := by
    rw [List.filterMap_eq_nil_iff]
    intro effect heffect
    exact (hlog effect heffect).printed?
  rw [World.output_of_effects heffects, List.filterMap_append, hnone, List.nil_append]

open scoped Classical in
/-- Nothing of a log is a report. -/
theorem ComesTo.reports_eq (h : ComesTo arguments environment w u) :
    (worldOf arguments environment w).reports
      = w.reports ++ u.effects.filter fun effect => effect.IsReport := by
  obtain ⟨logging, hlog, heffects⟩ := h.exists_effects_eq
  have hnone : logging.filter (fun effect => effect.IsReport) = [] := by
    rw [List.filter_eq_nil_iff]
    intro effect heffect
    simpa using (hlog effect heffect).not_isReport
  rw [World.reports, heffects, List.filter_append, List.filter_append, hnone, List.nil_append,
    World.reports]

end

/-! ## Evaluations that differ in their report -/

/-- The report that an evaluation asks for is one that can be asked for, and where the
run comes to it, it is written. -/
structure Reported (environment : Environment) (args : Command.EvalArgs) (w : World) : Prop where
  valid : ∀ config,
    configured w.files (Config.choosePath args.config environment.config) = .ok config →
    ∃ report, Settings.resolveReport args.report config.report = .ok report
  written : ∀ settings, Prints environment args w settings →
    ∃ files, Stored w settings files

/-- Two evaluations that differ only in the report that the command line or the
configuration asks for; the files besides the configuration may differ too. -/
structure SameButReport (environment : Environment) (args other : Command.EvalArgs)
    (before after : FileTree) : Prop where
  commandLine : { args with report := none } = { other with report := none }
  configuration :
    (configured before (Config.choosePath args.config environment.config)).map
        (fun config => { config with report := none })
      = (configured after (Config.choosePath other.config environment.config)).map
        (fun config => { config with report := none })

section
variable {environment : Environment} {args other : Command.EvalArgs} {w : World}
  {files : FileTree}

theorem SameButReport.symm (h : SameButReport environment args other w.files files) :
    SameButReport environment other args files w.files :=
  ⟨h.commandLine.symm, h.configuration.symm⟩

/-- What one of the evaluations prints the other prints too. -/
theorem Prints.of_sameButReport {settings : Settings} (hprints : Prints environment args w settings)
    (hsame : SameButReport environment args other w.files files)
    (hreported : Reported environment other { w with files := files }) :
    ∃ settings', Prints environment other { w with files := files } settings'
      ∧ settings'.n = settings.n := by
  obtain ⟨⟨config, hconfig, hsettings⟩, fits, takes⟩ := hprints
  obtain ⟨hn, halgorithm, -⟩ := Settings.resolve_eq_ok_iff.mp hsettings
  have hmap := hsame.configuration
  rw [hconfig] at hmap
  -- the other configuration is there too, with the same index and algorithm
  rcases hconfig' : configured files (Config.choosePath other.config environment.config)
    with cause | config'
  · rw [hconfig'] at hmap
    cases hmap
  · rw [hconfig'] at hmap
    have hkeys : { config with report := none } = { config' with report := none } :=
      Except.ok.inj hmap
    obtain ⟨hkeyN, hkeyAlgorithm, -⟩ := Config.mk.inj hkeys
    obtain ⟨hargN, hargAlgorithm, -, -⟩ := Command.EvalArgs.mk.inj hsame.commandLine
    obtain ⟨report, hreport⟩ := hreported.valid config' hconfig'
    refine ⟨⟨settings.n, settings.algorithm, report⟩, ⟨⟨config', hconfig', ?_⟩, fits, takes⟩, rfl⟩
    rw [Settings.resolve_eq_ok_iff]
    unfold overridesOf at hn halgorithm ⊢
    refine ⟨?_, ?_, hreport⟩
    · rw [← hkeyN, ← hargN]
      exact hn
    · rw [← hkeyAlgorithm, ← hargAlgorithm]
      exact halgorithm

section
variable {arguments : List String} {filter : Log.Filter}
  (parsed : Command.Invocation.parse arguments = .ok (.evaluate args))
  (started : start environment w = .ok filter)
include parsed started

/-- An evaluation whose report is written succeeds as soon as it prints a value. -/
theorem Reported.of_prints (h : Reported environment args w) {settings : Settings}
    (hprints : Prints environment args w settings) :
    statusOf arguments environment w = succeeded
    ∧ (worldOf arguments environment w).output = w.output ++ valueLine settings := by
  obtain ⟨files, stored⟩ := h.written settings hprints
  obtain ⟨resolves, fits, takes⟩ := hprints
  obtain ⟨hstatus, -, heffects⟩ := of_ends parsed started (.done resolves fits takes stored)
  exact ⟨hstatus, output_of_printing heffects rfl⟩

theorem of_not_prints (notices : w.TakesNotices)
    (hnone : ¬ ∃ settings, Prints environment args w settings) :
    statusOf arguments environment w = failed
    ∧ (worldOf arguments environment w).output = w.output := by
  obtain ⟨ending, hends⟩ := exists_ends environment args w
  obtain ⟨hstatus, -, heffects⟩ := of_ends parsed started hends
  constructor
  · rcases hfailure : ending.failure with _ | failure
    · obtain ⟨settings, files, -, hprints, -⟩ := hends.eq_done hfailure
      exact absurd ⟨settings, hprints⟩ hnone
    · rw [hstatus, hfailure, statusFor_some notices]
  · rcases hends.printing_cases with ⟨settings, hprints, -⟩ | hprinting
    · exact absurd ⟨settings, hprints⟩ hnone
    · exact output_of_not_printing heffects hprinting

end

/-- Neither which report is asked for nor where it goes shows in the status or the
output. -/
theorem eq_of_sameButReport {arguments arguments' : List String}
    (parsed : Command.Invocation.parse arguments = .ok (.evaluate args))
    (parsed' : Command.Invocation.parse arguments' = .ok (.evaluate other))
    (notices : w.TakesNotices) (hsame : SameButReport environment args other w.files files)
    (h : Reported environment args w) (h' : Reported environment other { w with files := files }) :
    statusOf arguments environment w = statusOf arguments' environment { w with files := files }
    ∧ (worldOf arguments environment w).output
      = (worldOf arguments' environment { w with files := files }).output := by
  rcases started : start environment w with crash | filter
  · -- the start looks at no file, so both runs are stopped there
    unfold statusOf worldOf
    rw [run_of_stopped arguments started, run_of_stopped arguments' (by exact started)]
    exact ⟨rfl, rfl⟩
  have started' : start environment { w with files := files } = .ok filter := started
  by_cases hsome : ∃ settings, Prints environment args w settings
  · obtain ⟨settings, hprints⟩ := hsome
    obtain ⟨settings', hprints', hindex⟩ := hprints.of_sameButReport hsame h'
    obtain ⟨hstatus, houtput⟩ := h.of_prints parsed started hprints
    obtain ⟨hstatus', houtput'⟩ := h'.of_prints parsed' started' hprints'
    refine ⟨hstatus.trans hstatus'.symm, ?_⟩
    rw [houtput, houtput', valueLine, valueLine, hindex]
    rfl
  · have hnone : ¬ ∃ settings', Prints environment other { w with files := files } settings' := by
      rintro ⟨settings', hprints'⟩
      obtain ⟨settings, hprints, -⟩ := hprints'.of_sameButReport hsame.symm h
      exact hsome ⟨settings, hprints⟩
    obtain ⟨hstatus, houtput⟩ := of_not_prints parsed started notices hsome
    obtain ⟨hstatus', houtput'⟩ := of_not_prints parsed' started' (by exact notices) hnone
    exact ⟨hstatus.trans hstatus'.symm, houtput.trans houtput'.symm⟩

end

/-! ## Calls in reports -/

/-- The effect puts the text of a report somewhere. -/
def Carries (effect : Effect) (report : Report) (format : Report.Format) (text : String) : Prop :=
  effect = .diagnosed (.text text) ∧ text = report.renderLine format
  ∨ ∃ path, effect = .wrote path text ∧ text = report.render format

/-- A report that is out has calls, and shows them, exactly if the recursion was run. -/
theorem carries_of_isReport {environment : Environment} {args : Command.EvalArgs} {w : World}
    {filter : Log.Filter} {ending : Ending} {effect : Effect}
    (hends : Ends environment args w ending)
    (hmem : effect ∈ effectsOf environment args w filter ending) (hreport : effect.IsReport) :
    ∃ settings report format text, Resolves w.files environment args settings
      ∧ Carries effect report format text
      ∧ report.algorithm = settings.algorithm.name
      ∧ (report.calls.isSome = true ↔ settings.algorithm = .naive)
      ∧ ("calls".toList <:+: text.toList ↔ settings.algorithm = .naive) := by
  have hreporting := mem_reporting_of_isReport hmem hreport
  cases hends with
  | @done settings files resolves fits takes stored =>
    have hcalls : (reportWith true settings w.nextTime).calls.isSome = true
        ↔ settings.algorithm = .naive := by
      rw [reportWith]
      by_cases hnaive : settings.algorithm = .naive
      · simp [hnaive]
      · simp [hnaive]
    have hname : (reportWith true settings w.nextTime).algorithm = settings.algorithm.name := rfl
    rcases stored with unasked | @⟨format, onError, taken⟩ | @⟨format, path, _, inFile, written⟩
    · simp [Ending.reporting, unasked] at hreporting
    · simp only [Ending.reporting, onError] at hreporting
      refine ⟨settings, _, format, _, resolves, .inl ⟨List.mem_singleton.mp hreporting, rfl⟩,
        hname, hcalls, ?_⟩
      rw [Report.infix_renderLine_iff hname, hcalls]
    · simp only [Ending.reporting, inFile] at hreporting
      refine ⟨settings, _, format, _, resolves,
        .inr ⟨path, List.mem_singleton.mp hreporting, rfl⟩, hname, hcalls, ?_⟩
      rw [Report.infix_render_iff hname, hcalls]
  | _ => cases hreporting

/-! ## Main statement -/

/-- For every command line, every path of a configuration, all libraries and every world.
Under any two filters the runs have the same status, the same standard output, the same files
and the same reports, where the logging library reads both lossily, as it says it does with
each, and standard error takes notices. Two evaluations that differ only in the report they
ask for, on the command line or in the configuration, have the same status and standard
output, provided that neither report is refused. And every report of an evaluation has calls,
in the record and in its text, exactly if the algorithm is the recursion. -/
theorem run_unaffected_by_diagnostics (arguments : List String) (config : Option String)
    (libraries : Libraries) (w : World) :
    (∀ filter other, libraries.ReadsLossily filter → libraries.ReadsLossily other →
      w.TakesNotices →
      statusOf arguments ⟨config, filter, libraries⟩ w
          = statusOf arguments ⟨config, other, libraries⟩ w
      ∧ (worldOf arguments ⟨config, filter, libraries⟩ w).output
          = (worldOf arguments ⟨config, other, libraries⟩ w).output
      ∧ (worldOf arguments ⟨config, filter, libraries⟩ w).files
          = (worldOf arguments ⟨config, other, libraries⟩ w).files
      ∧ (worldOf arguments ⟨config, filter, libraries⟩ w).reports
          = (worldOf arguments ⟨config, other, libraries⟩ w).reports)
    ∧ (∀ filter arguments' args args' files,
      Command.Invocation.parse arguments = .ok (.evaluate args) →
      Command.Invocation.parse arguments' = .ok (.evaluate args') → w.TakesNotices →
      SameButReport ⟨config, filter, libraries⟩ args args' w.files files →
      Reported ⟨config, filter, libraries⟩ args w →
      Reported ⟨config, filter, libraries⟩ args' { w with files := files } →
      statusOf arguments ⟨config, filter, libraries⟩ w
          = statusOf arguments' ⟨config, filter, libraries⟩ { w with files := files }
      ∧ (worldOf arguments ⟨config, filter, libraries⟩ w).output
          = (worldOf arguments' ⟨config, filter, libraries⟩ { w with files := files }).output)
    ∧ (∀ filter args, Command.Invocation.parse arguments = .ok (.evaluate args) →
      ∃ done, (worldOf arguments ⟨config, filter, libraries⟩ w).effects = w.effects ++ done
        ∧ ∀ effect ∈ done, effect.IsReport →
          ∃ settings report format text, Resolves w.files ⟨config, filter, libraries⟩ args settings
            ∧ Carries effect report format text
            ∧ report.algorithm = settings.algorithm.name
            ∧ (report.calls.isSome = true ↔ settings.algorithm = .naive)
            ∧ ("calls".toList <:+: text.toList ↔ settings.algorithm = .naive)) := by
  refine ⟨?_, ?_, ?_⟩
  · intro filter other lossy lossy' notices
    obtain ⟨directives, started⟩ : ∃ directives,
        start ⟨config, filter, libraries⟩ w = .ok directives := exists_start_eq_ok notices lossy
    obtain ⟨directives', started'⟩ : ∃ directives,
        start ⟨config, other, libraries⟩ w = .ok directives := exists_start_eq_ok notices lossy'
    obtain ⟨u, hupshot⟩ := exists_comesTo arguments config libraries w
    have hcomes := hupshot filter directives started
    have hcomes' := hupshot other directives' started'
    refine ⟨?_, ?_, ?_, ?_⟩
    · rw [hcomes.statusOf_eq, hcomes'.statusOf_eq]
    · rw [hcomes.output_eq, hcomes'.output_eq]
    · rw [hcomes.files_eq, hcomes'.files_eq]
    · rw [hcomes.reports_eq, hcomes'.reports_eq]
  · intro filter arguments' args args' files parsed parsed' notices hsame hreported hreported'
    exact eq_of_sameButReport parsed parsed' notices hsame hreported hreported'
  · intro filter args parsed
    rcases started : start ⟨config, filter, libraries⟩ w with crash | directives
    · -- a run that is stopped at its start has no report out
      refine ⟨_, by rw [worldOf, run_of_stopped arguments started]; rfl, ?_⟩
      intro effect hmem hreport
      exact absurd hreport (not_isReport_of_mem_stopped hmem)
    · obtain ⟨ending, hends⟩ := exists_ends ⟨config, filter, libraries⟩ args w
      refine ⟨effectsOf ⟨config, filter, libraries⟩ args w directives ending, ?_, ?_⟩
      · exact (of_ends parsed started hends).2.2
      · intro effect hmem hreport
        exact carries_of_isReport hends hmem hreport

/-- The same index with a JSON report and with a report in lines, and with events let
through or not; the report shows the calls. -/
theorem run_ten_unaffected_by_diagnostics :
    (worldOf ["10", "--report=json"] { filter := some "debug" } { files := .fresh }).reports
        = (worldOf ["10", "--report=json"] {} { files := .fresh }).reports
    ∧ (statusOf ["10", "--report=json"] {} { files := .fresh }
        = statusOf ["10", "--report=human"] {} { files := .fresh }
      ∧ (worldOf ["10", "--report=json"] {} { files := .fresh }).output
        = (worldOf ["10", "--report=human"] {} { files := .fresh }).output)
    ∧ ∃ effect ∈ (worldOf ["10", "--report=json"] {} { files := .fresh }).effects,
        ∃ report format text, Carries effect report format text
          ∧ report.calls.isSome = true ∧ "calls".toList <:+: text.toList := by
  have hjson : Command.Invocation.parse ["10", "--report=json"]
      = .ok (.evaluate { n := some "10", report := some "json" }) := by
    decide +kernel
  have hhuman : Command.Invocation.parse ["10", "--report=human"]
      = .ok (.evaluate { n := some "10", report := some "human" }) := by
    decide +kernel
  -- without a configuration the command line alone decides, and on standard error no
  -- report is refused
  have hreported : ∀ text format,
      Settings.resolveReport (some text) none = .ok (some ⟨format, .standardError⟩) →
      Reported {} { n := some "10", report := some text } { files := .fresh } := by
    intro text format hspec
    constructor
    · rintro config hconfig
      cases hconfig
      exact ⟨_, hspec⟩
    · rintro settings ⟨⟨config, hconfig, hsettings⟩, -, -⟩
      cases hconfig
      have hreport := (Settings.resolve_eq_ok_iff.mp hsettings).2.2
      exact ⟨_, .shown (Except.ok.inj (hreport.symm.trans hspec)) rfl⟩
  have hsettings : Settings.resolve ⟨some "10", none, some "json"⟩ {}
      = .ok ⟨10, .naive, some ⟨.json, .standardError⟩⟩ := by
    decide +kernel
  obtain ⟨hfilter, hreport, hcalls⟩ :=
    run_unaffected_by_diagnostics ["10", "--report=json"] none .standIn { files := .fresh }
  refine ⟨(hfilter (some "debug") none (by decide +kernel) rfl nofun).2.2.2, ?_, ?_⟩
  · exact hreport none ["10", "--report=human"] _ _ .fresh hjson hhuman nofun ⟨rfl, rfl⟩
      (hreported "json" .json (by decide +kernel)) (hreported "human" .human (by decide +kernel))
  · have hends : Ends {} { n := some "10", report := some "json" } { files := .fresh }
        (.done ⟨10, .naive, some ⟨.json, .standardError⟩⟩ .fresh) :=
      .done ⟨{}, rfl, hsettings⟩ (by decide) rfl (.shown rfl rfl)
    obtain ⟨done, heffects, hdone⟩ := hcalls none _ hjson
    have started : start {} { files := .fresh } = .ok Log.defaultFilter := rfl
    obtain rfl : done = effectsOf {} _ { files := .fresh } Log.defaultFilter _ :=
      heffects.symm.trans (of_ends hjson started hends).2.2
    have hmem : Effect.diagnosed (.text ((reportWith true
        ⟨10, .naive, some ⟨.json, .standardError⟩⟩ 0).renderLine .json))
        ∈ effectsOf {} { n := some "10", report := some "json" } { files := .fresh }
          Log.defaultFilter (.done ⟨10, .naive, some ⟨.json, .standardError⟩⟩ .fresh) :=
      List.mem_append_left _ (List.mem_append_right _ List.mem_cons_self)
    obtain ⟨settings, report, format, text, ⟨config, hconfig, hresolve⟩, hcarries, -, hsome,
      hshown⟩ := hdone _ hmem ⟨_, _, rfl⟩
    cases hconfig
    obtain rfl := Except.ok.inj (hsettings.symm.trans hresolve)
    exact ⟨_, by rw [heffects]; exact hmem, report, format, text, hcarries, hsome.mpr rfl,
      hshown.mpr rfl⟩

end Program
end Fibonacci
