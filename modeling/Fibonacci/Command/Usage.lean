/-
What can be wrong with a command line.

Each fault is told in one line. It is composed for a terminal, with the words of the user
and the names of options and arguments in a style of their own, and what is written is
the plain text of that: a sequence in the words of the user that would steer a terminal
goes as the styles go, and one that is not ended there is cut off by the end of the style.
-/
import Fibonacci.Text.Numeral
import Fibonacci.Text.Terminal

set_option autoImplicit false

namespace Fibonacci.Command

/-- The faults of a command line. Options are named with the label of their value. -/
inductive UsageError where
  /-- An argument that has no place. -/
  | unexpected (argument : String)
  /-- An option without the value it needs. -/
  | valueRequired (label : String)
  /-- An option that is given twice. -/
  | usedTwice (label : String)
  /-- A value that is not acceptable, with the reason where there is one to give. -/
  | invalidValue (value label : String) (reason : Option String)
  /-- A flag with a value that it does not take. -/
  | unexpectedValue (value flag : String)
  /-- An argument that has to be there and is not. -/
  | missing (label : String)
  /-- A word that is no subcommand. -/
  | unknownSubcommand (word : String)
  /-- A word too many, after the arguments listed. -/
  | conflict (word : String) (others : List String)
  deriving DecidableEq, Repr

/-- A text between single quotes, in a style of its own. -/
def inQuotes (text : String) : String := "'" ++ Text.styled text ++ "'"

/-- The fault in words; its first line says what is wrong. -/
def UsageError.describe : UsageError → String
  | .unexpected argument => "unexpected argument " ++ inQuotes argument ++ " found"
  | .valueRequired label =>
    "a value is required for " ++ inQuotes label ++ " but none was supplied"
  | .usedTwice label => "the argument " ++ inQuotes label ++ " cannot be used multiple times"
  | .invalidValue value label none =>
    "invalid value " ++ inQuotes value ++ " for " ++ inQuotes label
  | .invalidValue value label (some reason) =>
    "invalid value " ++ inQuotes value ++ " for " ++ inQuotes label ++ ": " ++ reason
  | .unexpectedValue value flag =>
    "unexpected value " ++ inQuotes value ++ " for " ++ inQuotes flag ++
      " found; no more were expected"
  | .missing label =>
    "the following required arguments were not provided:\n  " ++ Text.styled label
  | .unknownSubcommand word => "unrecognized subcommand " ++ inQuotes word
  | .conflict word [other] =>
    "the subcommand " ++ inQuotes word ++ " cannot be used with " ++ inQuotes other
  | .conflict word others =>
    "the subcommand " ++ inQuotes word ++ " cannot be used with:" ++
      String.join (others.map ("\n  " ++ Text.styled ·))

/-- The fault as it is composed. -/
def UsageError.compose (e : UsageError) : String :=
  Text.styled "error:" ++ " " ++ e.describe ++ "\n\nFor more information, try " ++
    inQuotes "--help" ++ ".\n"

/-- The fault as it is written to standard error. -/
def UsageError.render (e : UsageError) : String := Text.plain e.compose

end Fibonacci.Command
