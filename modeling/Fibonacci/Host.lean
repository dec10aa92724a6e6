/-
What the program needs from its surroundings, and a model of them.

The program reads a file, writes a file, prints on two channels, records events and
takes times; `Host` lists these. It is written for any monad that offers them, so the
same text runs on the machine and over `World`: a value with a tree of files, a standard
output that is open or full, a standard error that takes a text or refuses it, and the
times that the clock is going to give. Over `World` a run is a function, and what it
leaves behind can be compared. A world also keeps what has been done to it, in order,
across both channels and the files; what stands on one channel is a view of that.

Two things are handed to standard error without an answer: an event, where the logging
library keeps to itself what becomes of it, and the notice that the program has been
stopped, which the runtime gives as well as it can.
-/
import Fibonacci.FileTree
import Fibonacci.Log.Event

set_option autoImplicit false

namespace Fibonacci

/-- Why a run is stopped in the middle. -/
inductive Crash where
  /-- The logging library does not get through the filter. -/
  | filter
  /-- Standard error refuses something that has to be told. -/
  | unheard (cause : FileError)
  /-- Standard output refuses a completion script. -/
  | script (cause : FileError)
  deriving DecidableEq, Repr

/-- The surroundings of the program. -/
class Host (m : Type → Type) where
  /-- The text of the file at a path. -/
  readFile : String → m (Except FileError String)
  /-- Makes a text the whole content of the file at a path. -/
  writeFile : String → String → m (Except FileError Unit)
  /-- Prints on standard output. -/
  print : String → m (Except FileError Unit)
  /-- Prints on standard error. -/
  printError : String → m (Except FileError Unit)
  /-- Records an event on standard error. -/
  record : Log.Event → m Unit
  /-- Gives notice on standard error that the run is stopped. -/
  crash : Crash → m Unit
  /-- Computes something and takes the time, in nanoseconds. -/
  timed : {α : Type} → (Unit → α) → m (α × Nat)

/-- Stages that can end a run early have the surroundings of the run. -/
instance {ε : Type} {m : Type → Type} [Monad m] [Host m] : Host (ExceptT ε m) where
  readFile path := ExceptT.lift (Host.readFile path)
  writeFile path text := ExceptT.lift (Host.writeFile path text)
  print text := ExceptT.lift (Host.print text)
  printError text := ExceptT.lift (Host.printError text)
  record e := ExceptT.lift (Host.record e)
  crash cause := ExceptT.lift (Host.crash cause)
  timed f := ExceptT.lift (Host.timed f)

/-! ## The model -/

/-- Something on standard error. -/
inductive Diagnostic where
  /-- A text that the program has printed. -/
  | text (content : String)
  | event (e : Log.Event)
  /-- The notice that the run was stopped, in the words of the runtime. -/
  | crash (cause : Crash)
  deriving DecidableEq, Repr

/-- Something that has been done to the surroundings. -/
inductive Effect where
  /-- Standard output has taken a text. -/
  | printed (text : String)
  /-- A text has become the content of the file at a path. -/
  | wrote (path text : String)
  /-- Something has gone to standard error. -/
  | diagnosed (d : Diagnostic)
  deriving DecidableEq, Repr

namespace Effect

/-- The text that standard output has taken. -/
def printed? : Effect → Option String
  | printed text => some text
  | _ => none

/-- What has gone to standard error. -/
def diagnosed? : Effect → Option Diagnostic
  | diagnosed d => some d
  | _ => none

end Effect

/-- The surroundings as a value. -/
structure World where
  files : FileTree
  /-- Whether standard output takes nothing. -/
  outputFull : Bool := false
  /-- The cause for which standard error refuses a text, if it does; nothing of such a
  text is left there. -/
  errorRefuses : String → Option FileError := fun _ => none
  /-- The times that the clock is going to give, zero after the last. -/
  times : List Nat := []
  /-- What has been done so far, in order. -/
  effects : List Effect := []

namespace World

/-- What has been printed on standard output. -/
def output (w : World) : String := String.join (w.effects.filterMap Effect.printed?)

/-- What has been written to standard error, in order. -/
def diagnostics (w : World) : List Diagnostic := w.effects.filterMap Effect.diagnosed?

/-- The world after more has been done, with the files as they were. -/
def after (w : World) (effects : List Effect) : World :=
  { w with effects := w.effects ++ effects }

/-- Reads a file. -/
def readFile (path : String) : StateM World (Except FileError String) := fun w =>
  (w.files.readText path, w)

/-- Writes a file. -/
def writeFile (path text : String) : StateM World (Except FileError Unit) := fun w =>
  match w.files.writeText path text with
  | .ok files => (.ok (), { w.after [.wrote path text] with files := files })
  | .error cause => (.error cause, w)

/-- Prints on standard output. -/
def print (text : String) : StateM World (Except FileError Unit) := fun w =>
  if w.outputFull then (.error .noSpace, w) else (.ok (), w.after [.printed text])

/-- Prints on standard error. -/
def printError (text : String) : StateM World (Except FileError Unit) := fun w =>
  match w.errorRefuses text with
  | some cause => (.error cause, w)
  | none => (.ok (), w.after [.diagnosed (.text text)])

/-- Adds to standard error. -/
def addDiagnostic (d : Diagnostic) : StateM World Unit := fun w =>
  ((), w.after [.diagnosed d])

/-- Computes something and takes the next time off the clock. -/
def timed {α : Type} (f : Unit → α) : StateM World (α × Nat) := fun w =>
  ((f (), w.times.head?.getD 0), { w with times := w.times.tail })

end World

instance : Host (StateM World) where
  readFile := World.readFile
  writeFile := World.writeFile
  print := World.print
  printError := World.printError
  record e := World.addDiagnostic (.event e)
  crash cause := World.addDiagnostic (.crash cause)
  timed := World.timed

end Fibonacci
