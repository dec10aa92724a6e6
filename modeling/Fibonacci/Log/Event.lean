/-
Diagnostic events.

An event has a level, a target, which is the part of the program it comes from, a message
and further fields.
-/

set_option autoImplicit false

namespace Fibonacci.Log

/-- How much an event matters, the most first. -/
inductive Level where
  /-- Something failed. -/
  | error
  /-- Something is odd. -/
  | warn
  /-- Something was done. -/
  | info
  /-- How something was done. -/
  | debug
  /-- Every step. -/
  | trace
  deriving DecidableEq, Repr

/-- The place of a level, from one. -/
def Level.rank : Level → Nat
  | .error => 1
  | .warn => 2
  | .info => 3
  | .debug => 4
  | .trace => 5

/-- The name of a level in an event. -/
def Level.name : Level → String
  | .error => "ERROR"
  | .warn => "WARN"
  | .info => "INFO"
  | .debug => "DEBUG"
  | .trace => "TRACE"

/-- A diagnostic event. -/
structure Event where
  /-- How much it matters. -/
  level : Level
  /-- Where it comes from. -/
  target : String
  /-- What happened. -/
  message : String
  /-- The details, by name. -/
  fields : List (String × String)
  deriving DecidableEq, Repr

/-- An event on one line, without its end. -/
def Event.render (e : Event) : String :=
  e.level.name ++ " " ++ e.target ++ ": " ++ e.message ++
    String.join (e.fields.map fun (name, value) => " " ++ name ++ "=" ++ value)

/-- The names of the fields of an event; the message is one of them. -/
def Event.fieldNames (e : Event) : List String := "message" :: e.fields.map (·.1)

end Fibonacci.Log
