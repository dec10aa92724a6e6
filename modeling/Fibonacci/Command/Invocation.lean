/-
The command line of the program.

Without a subcommand the program evaluates: an index, and options for the algorithm,
the configuration file and the report. A subcommand is recognised only as the very
first argument. `help` takes the name of a subcommand; the other two have arguments of
their own.
-/
import Fibonacci.Algorithm
import Fibonacci.Benchmark
import Fibonacci.Command.Grammar

set_option autoImplicit false

namespace Fibonacci.Command

/-! ## Evaluation -/

/-- The arguments of an evaluation. -/
structure EvalArgs where
  /-- The index, as given. -/
  n : Option String := none
  algorithm : Option Algorithm := none
  /-- The path of the configuration file. -/
  config : Option String := none
  /-- The text that asks for a report, as given. -/
  report : Option String := none
  deriving DecidableEq, Repr

namespace EvalArgs

/-- The index; any text is taken. -/
def indexSlot : Slot EvalArgs where
  label := "[N]"
  isSet args := args.n.isSome
  store value args := .ok { args with n := some value }

/-- The algorithm, by its name. -/
def algorithmSlot : Slot EvalArgs where
  label := "--algorithm <ALGORITHM>"
  isSet args := args.algorithm.isSome
  store value args :=
    match Algorithm.parse value with
    | .ok algorithm => .ok { args with algorithm := some algorithm }
    | .error cause =>
      .error (.invalidValue value "--algorithm <ALGORITHM>" (some cause.message))

/-- The path of the configuration file, which is not empty. -/
def configSlot : Slot EvalArgs where
  label := "--config <PATH>"
  isSet args := args.config.isSome
  store value args :=
    if value = "" then .error (.valueRequired "--config <PATH>")
    else .ok { args with config := some value }

/-- The text that asks for a report; any text is taken. -/
def reportSlot : Slot EvalArgs where
  label := "--report <SPEC>"
  isSet args := args.report.isSome
  store value args := .ok { args with report := some value }

/-- The grammar of an evaluation. A word after the index is taken for a subcommand
that came too late. -/
def grammar : Grammar EvalArgs where
  options :=
    [⟨"algorithm", some 'a', algorithmSlot⟩, ⟨"config", none, configSlot⟩,
     ⟨"report", none, reportSlot⟩]
  hasVersion := true
  word := some indexSlot
  takesNegatives := true
  surplus := .conflict

end EvalArgs

/-! ## Benchmark -/

/-- The arguments of the benchmark. -/
structure BenchArgs where
  /-- The largest index for the recursion. -/
  maxNaive : Option UInt32 := none
  deriving DecidableEq, Repr

namespace BenchArgs

/-- The ways in which a text fails to be an integer of sixty-four bits. -/
inductive IntegerFault where
  /-- There is nothing. -/
  | empty
  /-- There is something else than digits after the sign. -/
  | invalidDigit
  /-- The number is above the greatest. -/
  | tooLarge
  /-- The number is below the least. -/
  | tooSmall
  deriving DecidableEq, Repr

/-- The text shown to the user. -/
def IntegerFault.message : IntegerFault → String
  | .empty => "cannot parse integer from empty string"
  | .invalidDigit => "invalid digit found in string"
  | .tooLarge => "number too large to fit in target type"
  | .tooSmall => "number too small to fit in target type"

/-- Takes one more digit in, from the left; the first fault on the way decides. -/
def addDigit (negative : Bool) (value : Nat) (c : Char) : Except IntegerFault Nat :=
  let next := value * 10 + Text.digitValue c
  if !Text.isDigit c then .error .invalidDigit
  else if negative then (if next ≤ 0x8000000000000000 then .ok next else .error .tooSmall)
  else if next < 0x8000000000000000 then .ok next
  else .error .tooLarge

/-- Reads digits, at least one. -/
def readDigits (negative : Bool) (text : List Char) : Except IntegerFault Int :=
  if text = [] then .error .invalidDigit
  else (text.foldlM (addDigit negative) 0).map fun value =>
    if negative then -(value : Int) else value

/-- Reads an integer of sixty-four bits, with a sign if wanted. -/
def readInteger : List Char → Except IntegerFault Int
  | [] => .error .empty
  | '-' :: rest => readDigits true rest
  | '+' :: rest => readDigits false rest
  | text => readDigits false text

/-- The largest index for the recursion, of thirty-two bits. -/
def maxNaiveSlot : Slot BenchArgs where
  label := "--max-naive <MAX_NAIVE>"
  isSet args := args.maxNaive.isSome
  store value args :=
    let refuse (reason : String) : Except UsageError BenchArgs :=
      .error (.invalidValue value "--max-naive <MAX_NAIVE>" (some reason))
    match readInteger value.toList with
    | .error fault => refuse fault.message
    | .ok number =>
      if 0 ≤ number ∧ number < UInt32.size then
        .ok { args with maxNaive := some number.toNat.toUInt32 }
      else refuse (Text.signedNumeral number ++ " is not in 0..=4294967295")

/-- The grammar of the benchmark. -/
def grammar : Grammar BenchArgs where
  options := [⟨"max-naive", none, maxNaiveSlot⟩]
  hasVersion := false
  word := none
  takesNegatives := false
  surplus word _ := .unexpected word

end BenchArgs

/-! ## Completion scripts -/

/-- The shells that completion scripts exist for. -/
inductive Shell where
  /-- The Bourne-again shell. -/
  | bash
  /-- Elvish. -/
  | elvish
  /-- The friendly interactive shell. -/
  | fish
  /-- PowerShell. -/
  | powershell
  /-- The Z shell. -/
  | zsh
  deriving DecidableEq, Repr

/-- Every shell. -/
def Shell.all : List Shell := [bash, elvish, fish, powershell, zsh]

/-- The name of a shell. -/
def Shell.name : Shell → String
  | bash => "bash"
  | elvish => "elvish"
  | fish => "fish"
  | powershell => "powershell"
  | zsh => "zsh"

/-- The arguments for a completion script. -/
structure CompletionArgs where
  shell : Option Shell := none
  deriving DecidableEq, Repr

namespace CompletionArgs

/-- The shell, by its exact name. -/
def shellSlot : Slot CompletionArgs where
  label := "<SHELL>"
  isSet args := args.shell.isSome
  store value args :=
    match Shell.all.find? (·.name = value) with
    | some shell => .ok { args with shell := some shell }
    | none =>
      if value = "" then .error (.valueRequired "<SHELL>")
      else .error (.invalidValue value "<SHELL>" none)

/-- The grammar for a completion script. -/
def grammar : Grammar CompletionArgs where
  options := []
  hasVersion := false
  word := some shellSlot
  takesNegatives := false
  surplus word _ := .unexpected word

end CompletionArgs

/-! ## The whole command line -/

/-- What help can be asked about. -/
inductive Topic where
  | program
  /-- The benchmark. -/
  | bench
  /-- Completion scripts. -/
  | completions
  /-- Help itself. -/
  | help
  deriving DecidableEq, Repr

/-- The subcommands, by name. -/
def subcommands : List (String × Topic) :=
  [("bench", .bench), ("completions", .completions), ("help", .help)]

/-- What the program is asked to do. -/
inductive Invocation where
  /-- To evaluate. -/
  | evaluate (args : EvalArgs)
  /-- To run the benchmark, the recursion up to an index. -/
  | bench (maxNaive : UInt32)
  /-- To print a completion script. -/
  | completions (shell : Shell)
  /-- To print help. -/
  | help (topic : Topic)
  /-- To print the version. -/
  | version
  deriving DecidableEq, Repr

/-- What is done where the reading of arguments ended early. -/
def Stop.invocation (topic : Topic) : Stop → Except UsageError Invocation
  | .help => .ok (.help topic)
  | .version => .ok .version
  | .fault error => .error error

/-- Reads the arguments of a command and says what is asked for. -/
def readCommand {σ : Type} (topic : Topic) (g : Grammar σ) (record : σ) (arguments : List String)
    (conclude : σ → Except UsageError Invocation) : Except UsageError Invocation :=
  match g.read record arguments with
  | .ok record => conclude record
  | .error stop => stop.invocation topic

/-- The topic that the words after `help` name. Only the program has subcommands. -/
def helpTopic : List String → Except UsageError Topic
  | [] => .ok .program
  | word :: more =>
    match subcommands.lookup word, more with
    | none, _ => .error (.unknownSubcommand word)
    | some topic, [] => .ok topic
    | some _, next :: _ => .error (.unknownSubcommand next)

/-- Reads the arguments of a subcommand. -/
def readSubcommand (topic : Topic) (arguments : List String) : Except UsageError Invocation :=
  match topic with
  | .help => (helpTopic arguments).map .help
  | .bench =>
    readCommand .bench BenchArgs.grammar {} arguments fun args =>
      .ok (.bench (args.maxNaive.getD Benchmark.defaultMaxNaive))
  | .completions =>
    readCommand .completions CompletionArgs.grammar {} arguments fun args =>
      match args.shell with
      | some shell => .ok (.completions shell)
      | none => .error (.missing "<SHELL>")
  | .program =>
    readCommand .program EvalArgs.grammar {} arguments fun args => .ok (.evaluate args)

/-- Reads the command line. -/
def Invocation.parse (arguments : List String) : Except UsageError Invocation :=
  match arguments.head?.bind fun word => subcommands.lookup word with
  | some topic => readSubcommand topic arguments.tail
  | none => readSubcommand .program arguments

end Fibonacci.Command
