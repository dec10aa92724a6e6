/-
What the program prints about itself.
-/
import Fibonacci.Command.Invocation

set_option autoImplicit false

namespace Fibonacci.Command

/-- The name and the version. -/
def versionText : String := "fib 0.1.0\n"

/-- Help on the program. -/
def programHelp : List String :=
  ["Compute Fibonacci numbers by naive recursion",
   "",
   "Usage: fib [OPTIONS] [N]",
   "       fib <COMMAND>",
   "",
   "Commands:",
   "  bench        Time both evaluators against known values",
   "  completions  Generate shell completion scripts",
   "  help         Print this message or the help of the given subcommand(s)",
   "",
   "Arguments:",
   "  [N]  Index of the Fibonacci number to compute (default: 40)",
   "",
   "Options:",
   "  -a, --algorithm <ALGORITHM>  Evaluator to use: naive or iterative",
   "      --config <PATH>          Path to a TOML config file (overrides FIB_CONFIG)",
   "      --report <SPEC>          Emit a run report: human, json, or json:/path",
   "  -h, --help                   Print help",
   "  -V, --version                Print version"]

/-- Help on the benchmark. -/
def benchHelp : List String :=
  ["Time both evaluators against known values",
   "",
   "Usage: fib bench [OPTIONS]",
   "",
   "Options:",
   "      --max-naive <MAX_NAIVE>  " ++
     "Largest n to run through the naive evaluator [default: 35]",
   "  -h, --help                   Print help"]

/-- Help on completion scripts. -/
def completionsHelp : List String :=
  ["Generate shell completion scripts",
   "",
   "Usage: fib completions <SHELL>",
   "",
   "Arguments:",
   "  <SHELL>  Shell to generate completions for " ++
     "[possible values: bash, elvish, fish, powershell, zsh]",
   "",
   "Options:",
   "  -h, --help  Print help"]

/-- Help on help. -/
def helpHelp : List String :=
  ["Print this message or the help of the given subcommand(s)",
   "",
   "Usage: fib help [COMMAND]...",
   "",
   "Arguments:",
   "  [COMMAND]...  Print help for the subcommand(s)"]

/-- The lines of help on a topic. -/
def Topic.lines : Topic → List String
  | .program => programHelp
  | .bench => benchHelp
  | .completions => completionsHelp
  | .help => helpHelp

/-- Help on a topic, every line ended. -/
def Topic.text (topic : Topic) : String := String.join (topic.lines.map (· ++ "\n"))

end Fibonacci.Command
