/-
Indices given from outside.

An index reaches the program as text on the command line or as a signed integer in
a configuration file. Both end as a thirty-two bit index, or in a refusal that says
which way the number was unusable. A text is judged by the natural number its
digits stand for, however many there are, so no text is ever wrapped or cut.
-/
import Fibonacci.EvalError
import Fibonacci.Text.Blank

set_option autoImplicit false

namespace Fibonacci.Index

/-- The ways in which a text fails to be an index. -/
inductive Fault where
  /-- Nothing is left after trimming. -/
  | empty
  /-- A minus sign and digits. -/
  | negative (text : List Char)
  /-- A minus sign and anything else. -/
  | notInteger (text : List Char)
  /-- Neither digits nor a plus sign and digits. -/
  | notNatural (text : List Char)
  /-- Digits for a number of more than sixty-four bits. -/
  | tooLarge (text : List Char)
  deriving DecidableEq, Repr

/-- A text between single quotes, as it is. -/
def quoted (text : List Char) : String := "'" ++ String.ofList text ++ "'"

/-- The reason told to the user. -/
def Fault.reason : Fault → String
  | .empty => "expected a non-negative integer, got an empty string"
  | .negative text => quoted text ++ " is negative"
  | .notInteger text => quoted text ++ " is not an integer"
  | .notNatural text => quoted text ++ " is not a non-negative integer"
  | .tooLarge text => quoted text ++ " is too large to be an index"

/-- The refusal for a fault. -/
def Fault.error (fault : Fault) : EvalError := .invalidArgument fault.reason

/-- A natural number as an index; above thirty-two bits its Fibonacci number is out
of range in any case. -/
def ofNat (value : Nat) : Except EvalError UInt32 :=
  if value < UInt32.size then .ok value.toUInt32 else .error (.overflow value.toUInt64)

/-- Reads an index from a text that has no blanks around it. -/
def ofTrimmed : List Char → Except EvalError UInt32
  | [] => .error Fault.empty.error
  | '-' :: rest =>
    if Text.isNumeral rest then .error (Fault.negative ('-' :: rest)).error
    else .error (Fault.notInteger ('-' :: rest)).error
  | text =>
    let numeral := Text.withoutPlus text
    if !Text.isNumeral numeral then .error (Fault.notNatural text).error
    else if Text.valueOf numeral < UInt64.size then ofNat (Text.valueOf numeral)
    else .error (Fault.tooLarge text).error

/-- Reads an index from a text. -/
def parse (text : String) : Except EvalError UInt32 := ofTrimmed (Text.trim text.toList)

/-- Reads an index from a signed integer. -/
def ofInt (value : Int) : Except EvalError UInt32 :=
  if value < 0 then .error (.invalidArgument (Text.signedNumeral value ++ " is negative"))
  else ofNat value.toNat

end Fibonacci.Index
