/-
The program.

An evaluation goes through five stages, each of which can end it: the configuration
file, the settings, the evaluation itself, printing the value, writing the report. The
value is the only thing that ever reaches standard output, and nothing is written
anywhere before it has been printed. The benchmark runs all its cases first and then
prints their lines.

Events are recorded on the way as the filter lets them through. The calls of the
recursion are counted when something is going to show them, a report or an event.

Three things are left to libraries, and a run takes them from its environment: what
is said of a text that is no document, what is made of the filter's variable, and the
completion scripts.

A run that cannot tell what it has to tell on standard error is stopped there, and so is
one whose logging library does not get through the filter.
-/
import Fibonacci.Command.Help
import Fibonacci.Host
import Fibonacci.Log.Filter
import Fibonacci.Report.Render
import Fibonacci.Settings

set_option autoImplicit false

namespace Fibonacci.Program

/-! ## Surroundings and failures -/

/-- The libraries, as far as the program shows what they do. -/
structure Libraries where
  /-- What is said of a text that is no document. -/
  grammarText : String → String
  /-- What the value of the filter's variable leads to. -/
  readFilter : Option String → Log.Setup
  /-- The completion script for a shell. -/
  script : Command.Shell → String

/-- The value leads to a filter: what cannot be read of it is left out. The logging library
says so of itself for every value. -/
def Libraries.ReadsLossily (l : Libraries) (value : Option String) : Prop :=
  (l.readFilter value).filter.isSome

instance (l : Libraries) (value : Option String) : Decidable (l.ReadsLossily value) :=
  inferInstanceAs (Decidable ((l.readFilter value).filter.isSome = true))

/-- Filters are read as `Log.read` has it. The words for a text that is no document and the
scripts only stand where those of the libraries would. -/
def Libraries.standIn : Libraries where
  grammarText _ := "no document"
  readFilter := Log.read
  script shell := "# " ++ shell.name ++ "\n"

/-- What a run finds around it: the environment variables that the program looks at, and
the libraries. -/
structure Environment where
  /-- The path of a configuration file. -/
  config : Option String := none
  /-- The filter for events. -/
  filter : Option String := none
  libraries : Libraries := .standIn

/-- What the filter's variable leads to. -/
def Environment.logging (environment : Environment) : Log.Setup :=
  environment.libraries.readFilter environment.filter

/-- Why a run fails. -/
inductive Failure where
  /-- There is no usable configuration. -/
  | config (cause : Config.Error)
  /-- The settings are bad. -/
  | settings (cause : Settings.Error)
  /-- The evaluation is refused. -/
  | evaluation (cause : EvalError)
  /-- The value cannot be printed. -/
  | output (cause : FileError)
  /-- The report cannot be written. -/
  | report (destination : Report.Destination) (cause : FileError)
  /-- A line of the benchmark cannot be printed. -/
  | benchmarkLine (cause : FileError)
  /-- Cases of the benchmark gave something else than the known value. -/
  | benchmarkCases (failed total : Nat)
  deriving DecidableEq, Repr

/-- The text shown to the user. -/
def Failure.message (libraries : Libraries) : Failure → String
  | .config cause => cause.message libraries.grammarText
  | .settings cause => cause.message
  | .evaluation cause => cause.message
  | .output cause => "Failed to write result: " ++ cause.message
  | .report .standardError cause => "Failed to write report: " ++ cause.message
  | .report (.file path) cause => "Failed to write report to " ++ path ++ ": " ++ cause.message
  | .benchmarkLine cause => "Failed to write benchmark line: " ++ cause.message
  | .benchmarkCases failed total =>
    Text.numeral failed ++ " of " ++ Text.numeral total ++ " benchmark cases failed"

/-! ## Computing -/

/-- The value at an index and, where they are counted, the calls it took. Only the
recursion has calls to count. -/
def compute (algorithm : Algorithm) (n : UInt32) (counting : Bool) :
    Except EvalError (UInt64 × Option UInt64) :=
  if algorithm = .naive && counting then
    (Evaluator.counted n).map fun tally => (tally.value, some tally.calls)
  else
    (algorithm.evaluate n).map fun value => (value, none)

/-- A time in milliseconds: whole seconds and the fraction of one, scaled. -/
def milliseconds (nanoseconds : Nat) : Binary64 :=
  .ofFloat ((Float.ofNat (nanoseconds / 1000000000) +
    Float.ofNat (nanoseconds % 1000000000) / 1000000000.0) * 1000.0)

/-! ## Events -/

/-- The target of the events of an evaluation. -/
def evalTarget : String := "fib"

/-- The target of the events of the benchmark. -/
def benchTarget : String := "fib::bench"

/-- Times in events are written out in full from `10 ^ -4` up to `10 ^ 16`; a half
goes up. -/
def eventLayout : Layout where
  tie := .up
  isPlain power := decide (-4 ≤ power ∧ power ≤ 15)
  plus := []

/-- A truth value in an event. -/
def flagText (b : Bool) : String := if b then "true" else "false"

/-- The calls in an event. -/
def callsText : Option UInt64 → String
  | none => "None"
  | some calls => "Some(" ++ Text.numeral calls.toNat ++ ")"

/-- A configuration file is about to be read. -/
def loadingEvent (path : String) : Log.Event :=
  ⟨.debug, evalTarget, "loading config", [("path", path)]⟩

/-- The settings are known. -/
def settingsEvent (s : Settings) : Log.Event :=
  ⟨.debug, evalTarget, "resolved settings",
    [("n", Text.numeral s.n.toNat), ("algorithm", s.algorithm.name),
     ("report", flagText s.report.isSome)]⟩

/-- The value is known. -/
def evaluationEvent (r : Report) : Log.Event :=
  ⟨.info, evalTarget, "evaluation finished",
    [("n", Text.numeral r.index.toNat), ("algorithm", r.algorithm),
     ("value", Text.numeral r.value.toNat), ("calls", callsText r.calls),
     ("elapsed_ms", String.ofList (r.elapsed.natural eventLayout))]⟩

/-- A measurement has been made. -/
def measuredEvent (name : String) (n : UInt32) (rounds : Option Nat) (elapsed : Nat) :
    Log.Event :=
  let time := [("elapsed_ms", Text.numeral elapsed)]
  match rounds with
  | none =>
    ⟨.debug, benchTarget, "bench case finished",
      [("name", name), ("n", Text.numeral n.toNat)] ++ time⟩
  | some rounds =>
    ⟨.debug, benchTarget, "repeated bench case finished",
      [("name", name), ("n", Text.numeral n.toNat), ("iterations", Text.numeral rounds)] ++
        time⟩

section
variable {m : Type → Type} [Monad m] [Host m]

/-- Records an event if the filter lets it through. -/
def note (filter : Log.Filter) (e : Log.Event) : m Unit :=
  if filter.passes e then Host.record e else pure ()

/-! ## Evaluation -/

/-- The configuration to use: that of the chosen file, or an empty one. -/
def loadConfig (filter : Log.Filter) (path : Option String) : ExceptT Failure m Config := do
  match path with
  | none => return {}
  | some path =>
    note filter (loadingEvent path)
    let content ← Host.readFile path
    match Config.ofFile path content with
    | .ok config => return config
    | .error cause => throw (.config cause)

/-- Evaluates as the settings say and makes the report. -/
def evaluate (filter : Log.Filter) (s : Settings) : ExceptT Failure m Report := do
  let counting := s.report.isSome || filter.enables .info evalTarget
  let (outcome, nanoseconds) ← Host.timed fun _ => compute s.algorithm s.n counting
  match outcome with
  | .error cause => throw (.evaluation cause)
  | .ok (value, calls) =>
    let report : Report := ⟨s.n, value, s.algorithm.name, calls, milliseconds nanoseconds⟩
    note filter (evaluationEvent report)
    return report

/-- Writes a report where it is wanted. -/
def emit (spec : Report.Spec) (report : Report) : ExceptT Failure m Unit := do
  let written ← match spec.destination with
    | .standardError => Host.printError (report.renderLine spec.format)
    | .file path => Host.writeFile path (report.render spec.format)
  match written with
  | .ok () => return
  | .error cause => throw (.report spec.destination cause)

/-- Prints the value, and then writes the report if one is asked for. -/
def publish (settings : Settings) (report : Report) : ExceptT Failure m Unit := do
  match ← Host.print (Text.numeral report.value.toNat ++ "\n") with
  | .error cause => throw (.output cause)
  | .ok () =>
    match settings.report with
    | none => return
    | some spec => emit spec report

/-- An evaluation, stage by stage. -/
def runEvaluation (filter : Log.Filter) (environment : Environment) (args : Command.EvalArgs) :
    ExceptT Failure m Unit := do
  let config ← loadConfig filter (Config.choosePath args.config environment.config)
  match Settings.resolve ⟨args.n, args.algorithm, args.report⟩ config with
  | .error cause => throw (.settings cause)
  | .ok settings =>
    note filter (settingsEvent settings)
    let report ← evaluate filter settings
    publish settings report

/-! ## Benchmark -/

/-- Measures an evaluator at an index, once or in rounds, and keeps what came of it under a
name, with the known value. -/
def measure (filter : Log.Filter) (name : String) (n : UInt32) (rounds : Option Nat)
    (expected : UInt64) (f : Benchmark.Evaluator) : m Benchmark.Result := do
  let (outcome, nanoseconds) ← Host.timed fun _ => Benchmark.evaluated f n rounds
  let elapsed := nanoseconds / 1000000
  note filter (measuredEvent name n rounds elapsed)
  return ⟨name, outcome, expected, elapsed⟩

/-- Runs a case. -/
def runCase (filter : Log.Filter) (c : Benchmark.Case) : m Benchmark.Result :=
  measure filter c.name c.n c.rounds c.expected c.algorithm.evaluate

/-- Runs the cases, in order. -/
def runSuite (filter : Log.Filter) (maxNaive : UInt32) : m (List Benchmark.Result) :=
  (Benchmark.suite maxNaive).mapM (runCase filter)

/-- Prints one line of the benchmark. -/
def printLine (line : String) : ExceptT Failure m Unit := do
  match ← Host.print (line ++ "\n") with
  | .ok () => return
  | .error cause => throw (.benchmarkLine cause)

/-- Prints what came of a case. -/
def printResult (r : Benchmark.Result) : ExceptT Failure m Unit := do
  printLine r.line
  if !r.passed then printLine r.complaint

/-- The benchmark: all cases, then all lines. -/
def runBenchmark (filter : Log.Filter) (maxNaive : UInt32) : ExceptT Failure m Unit := do
  let results ← runSuite filter maxNaive
  results.forM printResult
  let failed := results.countP (!·.passed)
  if 0 < failed then throw (.benchmarkCases failed results.length)

/-! ## The whole run -/

/-- The status of a run that succeeded. -/
def succeeded : UInt32 := 0

/-- The status of a run that failed. -/
def failed : UInt32 := 1

/-- The status of a run whose command line is wrong. -/
def misused : UInt32 := 2

/-- The status of a run that was stopped in the middle. -/
def crashed : UInt32 := 101

/-- Stops the run. -/
def crash (cause : Crash) : m UInt32 := do
  Host.crash cause
  return crashed

/-- Tells something on standard error and goes on. A run that cannot tell it is stopped. -/
def tell (text : String) (next : m UInt32) : m UInt32 := do
  match ← Host.printError text with
  | .ok () => next
  | .error cause => crash (.unheard cause)

/-- The line that tells a failure. -/
def errorLine (libraries : Libraries) (failure : Failure) : String :=
  "Error: " ++ failure.message libraries ++ "\n"

/-- Ends a run: a failure is told on standard error. -/
def conclude (libraries : Libraries) (stages : ExceptT Failure m Unit) : m UInt32 := do
  match ← stages.run with
  | .ok () => return succeeded
  | .error failure => tell (errorLine libraries failure) (return failed)

/-- Prints a completion script. -/
def printScript (script : String) : m UInt32 := do
  match ← Host.print script with
  | .ok () => return succeeded
  | .error cause => crash (.script cause)

/-- Does what the program is asked to do. Help and the version are printed as far as
standard output takes them. -/
def perform (filter : Log.Filter) (environment : Environment) :
    Command.Invocation → m UInt32
  | .evaluate args => conclude environment.libraries (runEvaluation filter environment args)
  | .bench maxNaive => conclude environment.libraries (runBenchmark filter maxNaive)
  | .completions shell => printScript (environment.libraries.script shell)
  | .help topic => do
    let _ ← Host.print topic.text
    return succeeded
  | .version => do
    let _ ← Host.print Command.versionText
    return succeeded

/-- Reads the arguments and does what they ask for. What is wrong with them is told as far
as standard error takes it. -/
def obey (filter : Log.Filter) (arguments : List String) (environment : Environment) :
    m UInt32 := do
  match Command.Invocation.parse arguments with
  | .ok invocation => perform filter environment invocation
  | .error fault =>
    let _ ← Host.printError fault.render
    return misused

/-- A run of the program; the answer is the exit status. First comes what the logging
library has to say. -/
def run (arguments : List String) (environment : Environment) : m UInt32 :=
  environment.logging.complaints.foldr (fun complaint next => tell complaint.text next) <|
    match environment.logging.filter with
    | none => crash .filter
    | some filter => obey filter arguments environment

end

end Fibonacci.Program
