/-
The program on the machine.

Files, channels and the clock of the machine stand in for those of the model, and the
errors of the system are brought to the causes that the program knows. A path with a
character that no path can have is refused before the system sees it.

What is handed to standard error without an answer is lost where standard error refuses it.
-/
import Fibonacci.Program

set_option autoImplicit false

namespace Fibonacci

/-- The number and the description that the system gives to an error. -/
def systemCode? : IO.Error → Option (Nat × String)
  | .alreadyExists _ code details => some (code.toNat, details)
  | .otherError code details => some (code.toNat, details)
  | .resourceBusy code details => some (code.toNat, details)
  | .resourceVanished code details => some (code.toNat, details)
  | .unsupportedOperation code details => some (code.toNat, details)
  | .hardwareFault code details => some (code.toNat, details)
  | .unsatisfiedConstraints code details => some (code.toNat, details)
  | .illegalOperation code details => some (code.toNat, details)
  | .protocolError code details => some (code.toNat, details)
  | .timeExpired code details => some (code.toNat, details)
  | .interrupted _ code details => some (code.toNat, details)
  | .noFileOrDirectory _ code details => some (code.toNat, details)
  | .invalidArgument _ code details => some (code.toNat, details)
  | .permissionDenied _ code details => some (code.toNat, details)
  | .resourceExhausted _ code details => some (code.toNat, details)
  | .inappropriateType _ code details => some (code.toNat, details)
  | .noSuchThing _ code details => some (code.toNat, details)
  | .unexpectedEof => none
  | .userError _ => none

/-- The number of an error; some of the system's calls report it negated, in thirty-two
bits. -/
def plainCode (code : Nat) : Nat := if code < 0x80000000 then code else UInt32.size - code

/-- An error of the system as a cause. -/
def FileError.ofSystem (e : IO.Error) : FileError :=
  match systemCode? e with
  | none => .other e.toString
  | some (code, details) =>
    match plainCode code with
    | 2 => .notFound
    | 20 => .notDirectory
    | 21 => .isDirectory
    | 28 => .noSpace
    | 36 => .nameTooLong
    | code => .other (FileError.numbered details code)

/-- Does something that can fail. -/
def attempt {α : Type} (action : IO α) : IO (Except FileError α) := do
  try
    return .ok (← action)
  catch e =>
    return .error (FileError.ofSystem e)

/-- Does something with a file, if its path can be one. -/
def attemptAt {α : Type} (path : String) (action : IO α) : IO (Except FileError α) := do
  match Path.parse path with
  | .error cause => return .error cause
  | .ok _ => attempt action

/-- Reads the text of a file. -/
def readTextFile (path : String) : IO (Except FileError String) := do
  match ← attemptAt path (IO.FS.readBinFile path) with
  | .error cause => return .error cause
  | .ok bytes =>
    match String.fromUTF8? bytes with
    | some text => return .ok text
    | none => return .error .notText

/-- Writes the bytes of a text to a file, all of them before it returns. -/
def writeTextFile (path text : String) : IO (Except FileError Unit) :=
  attemptAt path do
    let handle ← IO.FS.Handle.mk path .write
    handle.write text.toUTF8
    handle.flush

/-- Prints on a channel at once. -/
def printNow (channel : IO.FS.Stream) (text : String) : IO (Except FileError Unit) :=
  attempt do
    channel.putStr text
    channel.flush

/-- Prints a line on standard error, or nothing. -/
def notify (line : String) : IO Unit := do
  let _ ← printNow (← IO.getStderr) (line ++ "\n")

/-- The notice that a run is stopped. -/
def Crash.notice : Crash → String
  | .filter => "stopped: the filter cannot be read"
  | .unheard cause => "stopped: standard error refuses a text: " ++ cause.message
  | .script cause => "stopped: standard output refuses a script: " ++ cause.message

/-- Computes something between two looks at the clock. -/
def clocked {α : Type} (f : Unit → α) : IO (α × Nat) := do
  let start ← IO.monoNanosNow
  let value ← IO.lazyPure f
  let stop ← IO.monoNanosNow
  return (value, stop - start)

instance : Host IO where
  readFile := readTextFile
  writeFile := writeTextFile
  print text := do printNow (← IO.getStdout) text
  printError text := do printNow (← IO.getStderr) text
  record e := notify e.render
  crash cause := notify cause.notice
  timed := clocked

end Fibonacci

/-- Runs the program with the arguments and the environment of the process. -/
def main (arguments : List String) : IO UInt32 := do
  let config ← IO.getEnv Fibonacci.Config.pathVariable
  let filter ← IO.getEnv Fibonacci.Log.filterVariable
  Fibonacci.Program.run arguments { config, filter }
