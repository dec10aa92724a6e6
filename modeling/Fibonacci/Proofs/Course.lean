/-
The course of an evaluation.

An evaluation has five stages, and it ends at the first that fails or after the last.
`Ends` says which of these happens, from the world and the arguments alone: each rule
has the stages before it succeed and names what the next one comes to. No rule mentions
the filter on events or runs anything.

From how a run ends everything that it leaves behind can be read off: the status, the
files, the looks at the clock, and what was done, in order. That the program does
exactly this, once it has got past its start, is `run_of_ends`, and every world has an
ending (`exists_ends`), so a statement about all runs is one about six endings.

The effects are kept in four stretches: events on the way, the value, the report, the
failure. Only the first depends on the filter.
-/
import Fibonacci.Proofs.CallCount
import Fibonacci.Proofs.Numeral
import Fibonacci.Proofs.Surroundings

set_option autoImplicit false

namespace Fibonacci.Program

open Evaluator (callCount)

/-! ## The stages without their effects -/

/-- What reading the configuration at a path comes to; without a path it is empty. -/
def configured (files : FileTree) : Option String → Except Config.Error Config
  | none => .ok {}
  | some path => Config.ofFile path (files.readText path)

/-- The arguments as they override a configuration. -/
def overridesOf (args : Command.EvalArgs) : Overrides :=
  ⟨args.n, args.algorithm, args.report⟩

/-- The chosen configuration can be had, and with the arguments it gives `settings`. -/
def Resolves (files : FileTree) (environment : Environment) (args : Command.EvalArgs)
    (settings : Settings) : Prop :=
  ∃ config, configured files (Config.choosePath args.config environment.config) = .ok config
    ∧ Settings.resolve (overridesOf args) config = .ok settings

/-- The Fibonacci number asked for fits in sixty-four bits. -/
def Fits (settings : Settings) : Prop := Nat.fib settings.n.toNat ≤ 2 ^ 64 - 1

instance (settings : Settings) : Decidable (Fits settings) :=
  inferInstanceAs (Decidable (Nat.fib settings.n.toNat ≤ 2 ^ 64 - 1))

/-- What an evaluation that fits reports. Calls are shown where they are counted, and
only the recursion has them. -/
def reportWith (counting : Bool) (settings : Settings) (nanoseconds : Nat) : Report where
  index := settings.n
  value := UInt64.ofNat (Nat.fib settings.n.toNat)
  algorithm := settings.algorithm.name
  calls :=
    if settings.algorithm = .naive && counting then
      some (UInt64.ofNat (callCount settings.n.toNat))
    else none
  elapsed := milliseconds nanoseconds

/-- The line that tells the value. -/
def valueLine (settings : Settings) : String :=
  toString (Nat.fib settings.n.toNat) ++ "\n"

/-- The report of an evaluation that starts now. -/
def reportOf (w : World) (settings : Settings) : Report := reportWith true settings w.nextTime

/-- The report that the settings ask for can be written: there is none, or standard error
takes its text, or its file does. Then these are the files in the end. -/
inductive Stored (w : World) (settings : Settings) : FileTree → Prop
  | off (unasked : settings.report = none) : Stored w settings w.files
  | shown {format : Report.Format}
      (onError : settings.report = some ⟨format, .standardError⟩)
      (taken : w.errorRefuses ((reportOf w settings).renderLine format) = none) :
      Stored w settings w.files
  | filed {format : Report.Format} {path : String} {after : FileTree}
      (inFile : settings.report = some ⟨format, .file path⟩)
      (written : w.files.writeText path ((reportOf w settings).render format) = .ok after) :
      Stored w settings after

/-- A report that goes where it is wanted is refused there. -/
inductive Refuses (w : World) (report : Report) : Report.Spec → FileError → Prop
  | onError {format : Report.Format} {cause : FileError}
      (refused : w.errorRefuses (report.renderLine format) = some cause) :
      Refuses w report ⟨format, .standardError⟩ cause
  | inFile {format : Report.Format} {path : String} {cause : FileError}
      (refused : w.files.writeText path (report.render format) = .error cause) :
      Refuses w report ⟨format, .file path⟩ cause

/-- Only the files and what standard error refuses matter. -/
theorem Refuses.of_eq {w w' : World} {report : Report} {spec : Report.Spec} {cause : FileError}
    (h : Refuses w report spec cause) (files : w'.files = w.files)
    (refuses : w'.errorRefuses = w.errorRefuses) : Refuses w' report spec cause := by
  cases h with
  | onError refused => exact .onError (by rw [refuses, refused])
  | inFile refused => exact .inFile (by rw [files, refused])

/-! ## Endings -/

/-- How an evaluation ends. -/
inductive Ending where
  /-- There is no usable configuration. -/
  | unconfigured (cause : Config.Error)
  /-- The settings are bad. -/
  | unsettled (cause : Settings.Error)
  /-- The Fibonacci number does not fit. -/
  | refused (settings : Settings)
  /-- Standard output does not take the value. -/
  | unprinted (settings : Settings)
  /-- The value is printed and the report cannot be written. -/
  | unreported (settings : Settings) (destination : Report.Destination) (cause : FileError)
  /-- Nothing fails; these are the files in the end. -/
  | done (settings : Settings) (files : FileTree)

/-- How an evaluation ends in a world: the stages before succeed, and the next comes to
what the ending says. -/
inductive Ends (environment : Environment) (args : Command.EvalArgs) (w : World) :
    Ending → Prop
  | unconfigured {cause : Config.Error}
      (config : configured w.files (Config.choosePath args.config environment.config)
        = .error cause) :
      Ends environment args w (.unconfigured cause)
  | unsettled {config : Config} {cause : Settings.Error}
      (config_ok : configured w.files (Config.choosePath args.config environment.config)
        = .ok config)
      (settings : Settings.resolve (overridesOf args) config = .error cause) :
      Ends environment args w (.unsettled cause)
  | refused {settings : Settings} (resolves : Resolves w.files environment args settings)
      (exceeds : ¬ Fits settings) :
      Ends environment args w (.refused settings)
  | unprinted {settings : Settings} (resolves : Resolves w.files environment args settings)
      (fits : Fits settings) (full : w.outputFull = true) :
      Ends environment args w (.unprinted settings)
  | unreported {settings : Settings} {spec : Report.Spec} {cause : FileError}
      (resolves : Resolves w.files environment args settings)
      (fits : Fits settings) (takes : w.outputFull = false)
      (asked : settings.report = some spec)
      (refused : Refuses w (reportOf w settings) spec cause) :
      Ends environment args w (.unreported settings spec.destination cause)
  | done {settings : Settings} {files : FileTree}
      (resolves : Resolves w.files environment args settings) (fits : Fits settings)
      (takes : w.outputFull = false) (stored : Stored w settings files) :
      Ends environment args w (.done settings files)

namespace Ending

/-- The failure that ends the run, if it fails. -/
def failure : Ending → Option Failure
  | unconfigured cause => some (.config cause)
  | unsettled cause => some (.settings cause)
  | refused settings => some (.evaluation (.overflow settings.n.toUInt64))
  | unprinted _ => some (.output .noSpace)
  | unreported _ destination cause => some (.report destination cause)
  | done _ _ => none

/-- The files in the end. -/
def files (before : FileTree) : Ending → FileTree
  | done _ files => files
  | _ => before

/-- The times left in the end: the clock is looked at once, for the evaluation. -/
def times (before : List Nat) : Ending → List Nat
  | unconfigured _ => before
  | unsettled _ => before
  | _ => before.tail

end Ending

/-! ## Effects in order -/

section
variable (filter : Log.Filter) (path : Option String) (nanoseconds : Nat)

/-- The event of a configuration that is read. -/
def loadingNotes : List Effect :=
  match path with
  | none => []
  | some path => noted filter (loadingEvent path)

/-- Whether the calls of an evaluation are counted. -/
def counts (settings : Settings) : Bool :=
  settings.report.isSome || filter.enables .info evalTarget

/-- The event of settings that are known. -/
def settingsNotes (settings : Settings) : List Effect := noted filter (settingsEvent settings)

/-- The event of a value that is known. -/
def evaluationNotes (settings : Settings) : List Effect :=
  noted filter (evaluationEvent (reportWith (counts filter settings) settings nanoseconds))

namespace Ending

/-- The events on the way. -/
def notes : Ending → List Effect
  | unconfigured _ => loadingNotes filter path
  | unsettled _ => loadingNotes filter path
  | refused settings => loadingNotes filter path ++ settingsNotes filter settings
  | unprinted settings =>
    loadingNotes filter path ++ settingsNotes filter settings
      ++ evaluationNotes filter nanoseconds settings
  | unreported settings _ _ =>
    loadingNotes filter path ++ settingsNotes filter settings
      ++ evaluationNotes filter nanoseconds settings
  | done settings _ =>
    loadingNotes filter path ++ settingsNotes filter settings
      ++ evaluationNotes filter nanoseconds settings

/-- The value on standard output. -/
def printing : Ending → List Effect
  | unreported settings _ _ => [.printed (valueLine settings)]
  | done settings _ => [.printed (valueLine settings)]
  | _ => []

/-- The report. -/
def reporting : Ending → List Effect
  | done settings _ =>
    match settings.report with
    | none => []
    | some ⟨format, .standardError⟩ =>
      [.diagnosed (.text ((reportWith true settings nanoseconds).renderLine format))]
    | some ⟨format, .file path⟩ =>
      [.wrote path ((reportWith true settings nanoseconds).render format)]
  | _ => []

/-- What the stages come to. -/
def result (ending : Ending) : Except Failure Unit :=
  match ending.failure with
  | none => .ok ()
  | some failure => .error failure

/-- The world that the stages leave, before a failure is told. -/
def leaves (w : World) : Ending → World
  | unconfigured _ => w.after (loadingNotes filter path)
  | unsettled _ => w.after (loadingNotes filter path)
  | refused settings =>
    (w.after (loadingNotes filter path ++ settingsNotes filter settings)).clocked
  | unprinted settings =>
    (w.after (loadingNotes filter path ++ settingsNotes filter settings
      ++ evaluationNotes filter w.nextTime settings)).clocked
  | unreported settings _ _ =>
    (w.after (loadingNotes filter path ++ settingsNotes filter settings
      ++ evaluationNotes filter w.nextTime settings)).clocked.after
        [.printed (valueLine settings)]
  | done settings files =>
    { ((w.after (loadingNotes filter path ++ settingsNotes filter settings
        ++ evaluationNotes filter w.nextTime settings)).clocked.after
          [.printed (valueLine settings)]).after
            (reporting w.nextTime (done settings files)) with
      files := files }

/-- The world that the stages leave, part by part. -/
theorem leaves_eq (w : World) (ending : Ending) :
    ending.leaves filter path w
      = { w with
          files := ending.files w.files
          times := ending.times w.times
          effects := w.effects ++ (ending.notes filter path w.nextTime ++ ending.printing
            ++ ending.reporting w.nextTime) } := by
  cases ending <;>
    simp [leaves, Ending.files, times, notes, printing, reporting, World.after, World.clocked]

/-! ### Views of the stretches

On standard output there is only the value. -/

theorem filterMap_printed_noted (e : Log.Event) :
    (noted filter e).filterMap Effect.printed? = [] := by
  rw [List.filterMap_eq_nil_iff]
  intro effect heffect
  rw [eq_event_of_mem_noted heffect]
  rfl

theorem filterMap_printed_notes (ending : Ending) :
    (ending.notes filter path nanoseconds).filterMap Effect.printed? = [] := by
  have hloading : (loadingNotes filter path).filterMap Effect.printed? = [] := by
    cases path with
    | none => rfl
    | some path => exact filterMap_printed_noted filter _
  cases ending <;>
    simp [notes, settingsNotes, evaluationNotes, filterMap_printed_noted, hloading]

theorem filterMap_printed_reporting (ending : Ending) :
    (ending.reporting nanoseconds).filterMap Effect.printed? = [] := by
  cases ending with
  | done settings files =>
    match h : settings.report with
    | none => simp [reporting, h]
    | some ⟨format, .standardError⟩ => simp [reporting, h, Effect.printed?]
    | some ⟨format, .file path⟩ => simp [reporting, h, Effect.printed?]
  | _ => rfl

end Ending
end

/-! ## What each stage comes to -/

theorem exec_loadConfig (filter : Log.Filter) (path : Option String) (w : World) :
    exec (loadConfig filter path) w
      = ((configured w.files path).mapError .config, w.after (loadingNotes filter path)) := by
  cases path with
  | none =>
    rw [loadingNotes, World.after_nil]
    rfl
  | some path =>
    unfold loadConfig
    rw [exec_bind_of_ok (exec_note filter _ w), exec_bind_of_ok (exec_readFile path _)]
    simp only [configured, loadingNotes, World.after_files]
    -- the event is out before the file is looked at, so both outcomes leave it
    cases Config.ofFile path (w.files.readText path) with
    | ok config => rfl
    | error cause => rfl

/-- The computation gives the same value counted or not. -/
theorem compute_eq (algorithm : Algorithm) (n : UInt32) (counting : Bool) :
    compute algorithm n counting
      = if Nat.fib n.toNat ≤ 2 ^ 64 - 1 then
          .ok (UInt64.ofNat (Nat.fib n.toNat),
            if algorithm = .naive && counting then some (UInt64.ofNat (callCount n.toNat))
            else none)
        else .error (.overflow n.toUInt64) := by
  unfold compute
  -- whether calls are counted decides which evaluator runs; both let through the same
  -- indices and give the same value
  by_cases hcount : (algorithm = .naive && counting) = true
  · rw [if_pos hcount, if_pos hcount, Evaluator.counted_eq]
    split <;> rfl
  · rw [if_neg hcount, if_neg hcount, Algorithm.evaluate_eq]
    split <;> rfl

theorem exec_evaluate_of_fits (filter : Log.Filter) {settings : Settings} (h : Fits settings)
    (w : World) :
    exec (evaluate filter settings) w
      = (.ok (reportWith (counts filter settings) settings w.nextTime),
          (w.after (evaluationNotes filter w.nextTime settings)).clocked) := by
  unfold evaluate
  rw [exec_bind_of_ok (exec_timed _ w)]
  dsimp only
  rw [compute_eq, if_pos (show Nat.fib settings.n.toNat ≤ 2 ^ 64 - 1 from h)]
  dsimp only
  rw [exec_bind_of_ok (exec_note filter _ _)]
  rfl

theorem exec_evaluate_of_not_fits (filter : Log.Filter) {settings : Settings}
    (h : ¬ Fits settings) (w : World) :
    exec (evaluate filter settings) w
      = (.error (.evaluation (.overflow settings.n.toUInt64)), w.clocked) := by
  unfold evaluate
  rw [exec_bind_of_ok (exec_timed _ w)]
  dsimp only
  rw [compute_eq, if_neg (show ¬ Nat.fib settings.n.toNat ≤ 2 ^ 64 - 1 from h)]
  rfl

/-- The value of a report that fits, as it is printed. -/
theorem numeral_value {settings : Settings} (h : Fits settings) (counting : Bool)
    (nanoseconds : Nat) :
    Text.numeral (reportWith counting settings nanoseconds).value.toNat ++ "\n"
      = valueLine settings := by
  rw [valueLine, Text.numeral_eq_toString, reportWith, Evaluator.toNat_ofNat_of_le h]

theorem exec_publish_of_full {settings : Settings} (report : Report) {w : World}
    (full : w.outputFull = true) :
    exec (publish settings report) w = (.error (.output .noSpace), w) := by
  unfold publish
  rw [exec_bind_of_ok (exec_print_of_full _ full)]
  rfl

/-- Past a standard output that takes the value there is only the report. -/
theorem exec_publish_of_open {settings : Settings} (fits : Fits settings) (counting : Bool)
    (nanoseconds : Nat) {w : World} (takes : w.outputFull = false) :
    exec (publish settings (reportWith counting settings nanoseconds)) w
      = exec (match settings.report with
          | none => pure ()
          | some spec => emit spec (reportWith counting settings nanoseconds))
          (w.after [.printed (valueLine settings)]) := by
  unfold publish
  rw [numeral_value fits]
  exact exec_bind_of_ok (exec_print_of_open _ takes)

theorem exec_emit_on_error {format : Report.Format} {report : Report} {w : World}
    (h : w.errorRefuses (report.renderLine format) = none) :
    exec (emit ⟨format, .standardError⟩ report) w
      = (.ok (), w.after [.diagnosed (.text (report.renderLine format))]) := by
  unfold emit
  dsimp only
  rw [exec_bind_of_ok (exec_printError_of_taken h)]
  rfl

theorem exec_emit_in_file {format : Report.Format} {path : String} {report : Report}
    {w : World} {files : FileTree}
    (h : w.files.writeText path (report.render format) = .ok files) :
    exec (emit ⟨format, .file path⟩ report) w
      = (.ok (), { w.after [.wrote path (report.render format)] with files := files }) := by
  unfold emit
  dsimp only
  rw [exec_bind_of_ok (exec_writeFile_of_ok h)]
  rfl

theorem exec_emit_of_refuses {spec : Report.Spec} {report : Report} {w : World}
    {cause : FileError} (h : Refuses w report spec cause) :
    exec (emit spec report) w = (.error (.report spec.destination cause), w) := by
  unfold emit
  cases h with
  | onError refused =>
    dsimp only
    rw [exec_bind_of_ok (exec_printError_of_refused refused)]
    rfl
  | inFile refused =>
    dsimp only
    rw [exec_bind_of_ok (exec_writeFile_of_error refused)]
    rfl

/-! ## The whole evaluation -/

section
variable (filter : Log.Filter) {environment : Environment} {args : Command.EvalArgs}
  {w : World} {settings : Settings}

/-- With good settings the evaluation goes on past its first two stages. -/
theorem exec_runEvaluation_of_resolves
    (resolves : Resolves w.files environment args settings) :
    exec (runEvaluation filter environment args) w
      = exec (evaluate filter settings >>= publish settings)
          (w.after (loadingNotes filter (Config.choosePath args.config environment.config)
            ++ settingsNotes filter settings)) := by
  obtain ⟨config, hconfig, hsettings⟩ := resolves
  have hload := exec_loadConfig filter (Config.choosePath args.config environment.config) w
  rw [hconfig] at hload
  unfold runEvaluation
  rw [exec_bind_of_ok hload]
  rw [overridesOf] at hsettings
  rw [hsettings]
  dsimp only
  rw [exec_bind_of_ok (exec_note filter _ _), World.after_after]
  rfl

/-- With a number that fits it goes on past its third. -/
theorem exec_runEvaluation_of_fits
    (resolves : Resolves w.files environment args settings) (fits : Fits settings) :
    exec (runEvaluation filter environment args) w
      = exec (publish settings (reportWith (counts filter settings) settings w.nextTime))
          (w.after (loadingNotes filter (Config.choosePath args.config environment.config)
            ++ settingsNotes filter settings
            ++ evaluationNotes filter w.nextTime settings)).clocked := by
  rw [exec_runEvaluation_of_resolves filter resolves,
    exec_bind_of_ok (exec_evaluate_of_fits filter fits _), World.after_after,
    World.nextTime_after]

/-- Where a report is asked for, the calls are counted whatever the filter. -/
theorem counts_of_report {spec : Report.Spec} (h : settings.report = some spec) :
    counts filter settings = true := by
  rw [counts, h]
  rfl

/-- The stages come to what the ending says and leave the world that it says. -/
theorem exec_runEvaluation {ending : Ending} (h : Ends environment args w ending) :
    exec (runEvaluation filter environment args) w
      = (ending.result,
          ending.leaves filter (Config.choosePath args.config environment.config) w) := by
  -- a rule of `Ends` speaks of the world at the start, a stage of the world it is run in;
  -- the two have the same files and standard output, which `by exact` leaves to unfolding
  -- once `rw` has found the world
  cases h with
  | unconfigured config =>
    have hload := exec_loadConfig filter (Config.choosePath args.config environment.config) w
    rw [config] at hload
    unfold runEvaluation
    rw [exec_bind_of_error hload]
    rfl
  | unsettled config_ok bad =>
    have hload := exec_loadConfig filter (Config.choosePath args.config environment.config) w
    rw [config_ok] at hload
    unfold runEvaluation
    rw [exec_bind_of_ok hload]
    rw [overridesOf] at bad
    rw [bad]
    rfl
  | refused resolves exceeds =>
    rw [exec_runEvaluation_of_resolves filter resolves,
      exec_bind_of_error (exec_evaluate_of_not_fits filter exceeds _)]
    rfl
  | unprinted resolves fits full =>
    rw [exec_runEvaluation_of_fits filter resolves fits, exec_publish_of_full _ (by exact full)]
    rfl
  | unreported resolves fits takes asked refused =>
    rw [exec_runEvaluation_of_fits filter resolves fits, counts_of_report filter asked,
      exec_publish_of_open fits _ _ (by exact takes)]
    rw [asked]
    dsimp only
    rw [exec_emit_of_refuses (by exact refused.of_eq rfl rfl)]
    rfl
  | done resolves fits takes stored =>
    rw [exec_runEvaluation_of_fits filter resolves fits,
      exec_publish_of_open fits _ _ (by exact takes)]
    cases stored with
    | off unasked =>
      simp only [unasked, exec_pure, Ending.result, Ending.failure, Ending.leaves,
        Ending.reporting, World.after_nil]
      rfl
    | shown onError taken =>
      rw [counts_of_report filter onError, onError]
      dsimp only
      rw [exec_emit_on_error (by exact taken)]
      simp only [Ending.leaves, Ending.reporting, onError]
      rfl
    | filed inFile written =>
      rw [counts_of_report filter inFile, inFile]
      dsimp only
      rw [exec_emit_in_file (by exact written)]
      simp only [Ending.leaves, Ending.reporting, inFile]
      rfl

end

/-! ## Every run has an ending -/

/-- The value of `settings` is printed: the first three stages succeed and standard
output takes it. -/
def Prints (environment : Environment) (args : Command.EvalArgs) (w : World)
    (settings : Settings) : Prop :=
  Resolves w.files environment args settings ∧ Fits settings ∧ w.outputFull = false

/-- Past printing there are two endings left, and both have the value on standard
output. -/
theorem Prints.exists_ends {environment : Environment} {args : Command.EvalArgs} {w : World}
    {settings : Settings} (h : Prints environment args w settings) :
    (∃ files, Ends environment args w (.done settings files))
    ∨ ∃ destination cause,
        Ends environment args w (.unreported settings destination cause) := by
  obtain ⟨resolves, fits, takes⟩ := h
  match hreport : settings.report with
  | none => exact .inl ⟨_, .done resolves fits takes (.off hreport)⟩
  | some ⟨format, .standardError⟩ =>
    cases herror : w.errorRefuses ((reportOf w settings).renderLine format) with
    | none => exact .inl ⟨_, .done resolves fits takes (.shown hreport herror)⟩
    | some cause =>
      exact .inr ⟨_, _, .unreported resolves fits takes hreport (.onError herror)⟩
  | some ⟨format, .file path⟩ =>
    cases hwrite : w.files.writeText path ((reportOf w settings).render format) with
    | ok files => exact .inl ⟨_, .done resolves fits takes (.filed hreport hwrite)⟩
    | error cause =>
      exact .inr ⟨_, _, .unreported resolves fits takes hreport (.inFile hwrite)⟩

section
variable (environment : Environment) (args : Command.EvalArgs) (w : World)

/-- Whatever the world, one of the rules applies: the stages are gone through in order
and the first that fails is taken. -/
theorem exists_ends : ∃ ending, Ends environment args w ending := by
  cases hconfig : configured w.files (Config.choosePath args.config environment.config) with
  | error cause => exact ⟨_, .unconfigured hconfig⟩
  | ok config =>
    cases hsettings : Settings.resolve (overridesOf args) config with
    | error cause => exact ⟨_, .unsettled hconfig hsettings⟩
    | ok settings =>
      have resolves : Resolves w.files environment args settings :=
        ⟨config, hconfig, hsettings⟩
      by_cases fits : Fits settings
      · cases hfull : w.outputFull with
        | true => exact ⟨_, .unprinted resolves fits hfull⟩
        | false =>
          have hprints : Prints environment args w settings := ⟨resolves, fits, hfull⟩
          rcases hprints.exists_ends with ⟨files, hdone⟩ | ⟨destination, cause, hunreported⟩
          · exact ⟨_, hdone⟩
          · exact ⟨_, hunreported⟩
      · exact ⟨_, .refused resolves fits⟩

end

/-- Everything that a run does once it has got past its start, in order. -/
def effectsOf (environment : Environment) (args : Command.EvalArgs) (w : World)
    (filter : Log.Filter) (ending : Ending) : List Effect :=
  complaining environment w
    ++ ending.notes filter (Config.choosePath args.config environment.config) w.nextTime
    ++ ending.printing ++ ending.reporting w.nextTime
    ++ told environment.libraries w ending.failure

theorem filterMap_printed_complaining (environment : Environment) (w : World) :
    (complaining environment w).filterMap Effect.printed? = [] := by
  rw [complaining, heard, List.filterMap_map, List.filterMap_eq_nil_iff]
  intro c _
  rfl

theorem filterMap_printed_told (libraries : Libraries) (w : World) (failure : Option Failure) :
    (told libraries w failure).filterMap Effect.printed? = [] := by
  cases failure with
  | none => rfl
  | some failure =>
    unfold told
    dsimp only
    split <;> rfl

/-- What a run prints is the value, if anything. -/
theorem filterMap_printed_effectsOf (environment : Environment) (args : Command.EvalArgs)
    (w : World) (filter : Log.Filter) (ending : Ending) :
    (effectsOf environment args w filter ending).filterMap Effect.printed?
      = ending.printing.filterMap Effect.printed? := by
  simp only [effectsOf, List.filterMap_append, filterMap_printed_complaining,
    Ending.filterMap_printed_notes, Ending.filterMap_printed_reporting, filterMap_printed_told,
    List.nil_append, List.append_nil]

/-- The complaints change nothing that an ending depends on. -/
theorem Ends.after {environment : Environment} {args : Command.EvalArgs} {w : World}
    {ending : Ending} (h : Ends environment args w ending) (done : List Effect) :
    Ends environment args (w.after done) ending := by
  cases h with
  | unconfigured config => exact .unconfigured config
  | unsettled config_ok bad => exact .unsettled config_ok bad
  | refused resolves exceeds => exact .refused resolves exceeds
  | unprinted resolves fits full => exact .unprinted resolves fits full
  | unreported resolves fits takes asked refused =>
    exact .unreported resolves fits takes asked (refused.of_eq rfl rfl)
  | done resolves fits takes stored =>
    cases stored with
    | off unasked => exact .done resolves fits takes (.off unasked)
    | shown onError taken => exact .done resolves fits takes (.shown onError taken)
    | filed inFile written => exact .done resolves fits takes (.filed inFile written)

/-- Of the environment an ending depends on which configuration file is chosen, and on
nothing else. -/
theorem Ends.of_path_eq {environment other : Environment} {args : Command.EvalArgs} {w : World}
    {ending : Ending} (h : Ends environment args w ending)
    (hpath : Config.choosePath args.config environment.config
      = Config.choosePath args.config other.config) : Ends other args w ending := by
  have hresolves : ∀ {settings}, Resolves w.files environment args settings →
      Resolves w.files other args settings := by
    rintro settings ⟨config, hconfig, hsettings⟩
    exact ⟨config, by rw [← hpath, hconfig], hsettings⟩
  cases h with
  | unconfigured config => exact .unconfigured (by rw [← hpath, config])
  | unsettled config_ok bad => exact .unsettled (by rw [← hpath, config_ok]) bad
  | refused resolves exceeds => exact .refused (hresolves resolves) exceeds
  | unprinted resolves fits full => exact .unprinted (hresolves resolves) fits full
  | unreported resolves fits takes asked refused =>
    exact .unreported (hresolves resolves) fits takes asked refused
  | done resolves fits takes stored => exact .done (hresolves resolves) fits takes stored

/-- **The course of a run.** Past its start, a command line that asks for an evaluation gives
the status of its ending and leaves the files, the times and the effects of its ending. -/
theorem run_of_ends {arguments : List String} {environment : Environment}
    {args : Command.EvalArgs} {w : World} {filter : Log.Filter} {ending : Ending}
    (parsed : Command.Invocation.parse arguments = .ok (.evaluate args))
    (started : start environment w = .ok filter) (h : Ends environment args w ending) :
    (run arguments environment : StateM World UInt32).run w
      = (statusFor environment.libraries w ending.failure,
          { w with
            files := ending.files w.files
            times := ending.times w.times
            effects := w.effects ++ effectsOf environment args w filter ending }) := by
  -- the stages start with the complaints already out, and end there as they would without
  have hexec := exec_runEvaluation filter (h.after (complaining environment w))
  simp only [Ending.leaves_eq, Ending.result, World.after_files, World.after_times,
    World.after_effects, World.nextTime_after] at hexec
  rw [run_of_started started parsed]
  change StateT.run (conclude environment.libraries (runEvaluation filter environment args))
    (w.after (complaining environment w)) = _
  rw [run_conclude environment.libraries hexec]
  refine Prod.ext rfl ?_
  simp only [World.after, effectsOf, List.append_assoc]
  rfl

/-- What is known of a run that gave `status` and left `final`, from any ending of it. -/
theorem of_run_eq {arguments : List String} {environment : Environment}
    {args : Command.EvalArgs} {w final : World} {filter : Log.Filter} {status : UInt32}
    {ending : Ending} (parsed : Command.Invocation.parse arguments = .ok (.evaluate args))
    (started : start environment w = .ok filter)
    (hrun : (run arguments environment : StateM World UInt32).run w = (status, final))
    (h : Ends environment args w ending) :
    status = statusFor environment.libraries w ending.failure
    ∧ final.files = ending.files w.files
    ∧ final.effects = w.effects ++ effectsOf environment args w filter ending := by
  have heq := hrun.symm.trans (run_of_ends parsed started h)
  obtain ⟨hstatus, hfinal⟩ := Prod.mk.inj heq
  rw [hfinal]
  exact ⟨hstatus, rfl, rfl⟩

/-- A run that is stopped at its start has done nothing but complain. -/
theorem run_of_stopped {environment : Environment} {w : World} {cause : Crash}
    (arguments : List String) (stopped : start environment w = .error cause) :
    (run arguments environment : StateM World UInt32).run w
      = (crashed, w.after (complaining environment w ++ [.diagnosed (.crash cause)])) := by
  rw [run_eq, stopped]

/-- The status of a run. -/
def statusOf (arguments : List String) (environment : Environment) (w : World) : UInt32 :=
  ((run arguments environment : StateM World UInt32).run w).1

/-- The world that a run leaves. -/
def worldOf (arguments : List String) (environment : Environment) (w : World) : World :=
  ((run arguments environment : StateM World UInt32).run w).2

theorem of_ends {arguments : List String} {environment : Environment}
    {args : Command.EvalArgs} {w : World} {filter : Log.Filter} {ending : Ending}
    (parsed : Command.Invocation.parse arguments = .ok (.evaluate args))
    (started : start environment w = .ok filter) (h : Ends environment args w ending) :
    statusOf arguments environment w = statusFor environment.libraries w ending.failure
    ∧ (worldOf arguments environment w).files = ending.files w.files
    ∧ (worldOf arguments environment w).effects
        = w.effects ++ effectsOf environment args w filter ending :=
  of_run_eq parsed started rfl h

end Fibonacci.Program
