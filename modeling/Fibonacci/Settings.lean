/-
The settings of an evaluation.

Each of the three settings comes from the first source that has it: the command line,
the configuration file, the default. Only that source is looked at, so a bad value in
the file does no harm where the command line speaks. The settings are checked in the
order index, algorithm, report, and the first that is bad decides.
-/
import Fibonacci.Algorithm
import Fibonacci.Config
import Fibonacci.Index
import Fibonacci.Report.Spec

set_option autoImplicit false

namespace Fibonacci

/-- What the command line says about the settings. The algorithm's name was checked
when the arguments were read. -/
structure Overrides where
  /-- The index, as given. -/
  n : Option String := none
  algorithm : Option Algorithm := none
  /-- The text that asks for a report, as given. -/
  report : Option String := none
  deriving DecidableEq, Repr

/-- The settings of one evaluation. -/
structure Settings where
  /-- The index to evaluate. -/
  n : UInt32
  /-- How to evaluate it. -/
  algorithm : Algorithm
  /-- The report to write, if any. -/
  report : Option Report.Spec
  deriving DecidableEq, Repr

namespace Settings

/-- The index of a run that names none. -/
def defaultIndex : UInt32 := 40

/-- Why the settings are refused. -/
inductive Error where
  /-- The index on the command line is bad. -/
  | index (cause : EvalError)
  /-- The index in the file is bad. -/
  | fileIndex (cause : EvalError)
  /-- The algorithm in the file is bad. -/
  | fileAlgorithm (cause : EvalError)
  /-- The report asked for is bad, wherever it was asked for. -/
  | report (fault : Report.Spec.Fault)
  deriving DecidableEq, Repr

/-- The text shown to the user. -/
def Error.message : Error → String
  | .index cause => cause.message
  | .fileIndex cause => "config key 'n': " ++ cause.message
  | .fileAlgorithm cause => "config key 'algorithm': " ++ cause.message
  | .report fault => fault.message

/-- The integer of a configuration file as an index. -/
def indexOfFile (value : Int64) : Except EvalError UInt32 := Index.ofInt value.toInt

/-- The index from its first source. -/
def resolveIndex (option : Option String) (file : Option Int64) : Except Error UInt32 :=
  match option, file with
  | some text, _ => (Index.parse text).mapError .index
  | none, some value => (indexOfFile value).mapError .fileIndex
  | none, none => .ok defaultIndex

/-- The algorithm from its first source. -/
def resolveAlgorithm (option : Option Algorithm) (file : Option String) :
    Except Error Algorithm :=
  match option, file with
  | some algorithm, _ => .ok algorithm
  | none, some name => (Algorithm.parse name).mapError .fileAlgorithm
  | none, none => .ok Algorithm.default

/-- The report from its first source. -/
def resolveReport (option file : Option String) : Except Error (Option Report.Spec) :=
  match option.or file with
  | some text => (Report.Spec.parse text).mapError .report
  | none => .ok none

/-- The settings from the command line and the configuration file. -/
def resolve (overrides : Overrides) (config : Config) : Except Error Settings := do
  let n ← resolveIndex overrides.n config.n
  let algorithm ← resolveAlgorithm overrides.algorithm config.algorithm
  let report ← resolveReport overrides.report config.report
  return ⟨n, algorithm, report⟩

end Settings
end Fibonacci
