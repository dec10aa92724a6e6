/-
Directives of a filter on events.

A directive sets a bound on the levels that are let through. It can name a target, and
between brackets a span and, in braces, a field:

    TARGET[SPAN{FIELD=VALUE}]=LEVEL

A level alone is a directive for every target, and a directive without a level lets
everything through. The marks are looked for behind the blanks at the start of the
text, but the pieces between them are cut out of the text with its blanks, so that blanks
in front of a directive shift every piece. A shifted cut can fall into the middle of a
character, and there the reading breaks off: not with a fault, which would leave out the
directive and go on, but with no outcome at all.
-/
import Fibonacci.Log.Event
import Fibonacci.Log.Value
import Fibonacci.Text.Alphanumeric
import Fibonacci.Text.Blank
import Fibonacci.Text.Bytes
import Fibonacci.Text.Numeral

set_option autoImplicit false

namespace Fibonacci.Log

/-! ## Bounds -/

/-- A bound on levels: `none` lets nothing through, `some` the levels up to one. -/
abbrev Bound := Option Level

/-- The bound that lets everything through. -/
def unbounded : Bound := some .trace

/-- Whether a bound lets a level through. -/
def allows (bound : Bound) (level : Level) : Bool :=
  match bound with
  | none => false
  | some most => level.rank ≤ most.rank

/-- The names of the bounds; the place of a name is the number that stands for it. -/
def bounds : List (String × Bound) :=
  [("off", none), ("error", some .error), ("warn", some .warn), ("info", some .info),
   ("debug", some .debug), ("trace", some .trace)]

/-- The bound that a number stands for. -/
def numberedBound? (text : List Char) : Option Bound :=
  let numeral := Text.withoutPlus text
  if Text.isNumeral numeral then bounds[Text.valueOf numeral]?.map (·.2) else none

/-- The bound with a name, in any casing. -/
def namedBound? (text : List Char) : Option Bound :=
  (bounds.find? fun entry => text.map Char.toLower == entry.1.toList).map (·.2)

/-- Reads a bound. -/
def bound? (text : List Char) : Option Bound := (numberedBound? text).or (namedBound? text)

/-! ## Directives -/

/-- A condition on the fields of an event or a span. -/
structure FieldTest where
  /-- The name of the field. -/
  name : List Char
  /-- Whether its value is tested too. -/
  valued : Bool
  deriving DecidableEq, Repr

/-- A bound for some of the events. -/
structure Directive where
  /-- The start of the targets it is for, none for every target. -/
  target : Option (List Char)
  /-- The name of the span it is for. -/
  span : Option (List Char)
  /-- The field it is for. -/
  field : Option FieldTest
  /-- What is let through. -/
  bound : Bound
  deriving DecidableEq, Repr

/-- Why a directive is left out. -/
inductive Fault where
  /-- It is not built like a directive. -/
  | malformed
  /-- It names no level where one has to be. -/
  | unknownLevel
  /-- It asks for a value that cannot be used. -/
  | badValue (fault : ValueFault)
  deriving DecidableEq, Repr

/-- The text shown to the user. -/
def Fault.message : Fault → String
  | .malformed => "invalid filter directive"
  | .unknownLevel =>
    "error parsing level filter: expected one of \"off\", \"error\", \"warn\", \"info\", " ++
      "\"debug\", \"trace\", or a number 0-5"
  | .badValue fault => "invalid field filter: " ++ fault.message

/-! ## Fields -/

/-- Reads a condition on a field: its name, and its value after a sign of equality. What
stands after a second one does not count. -/
def FieldTest.parse (text : List Char) : Except Fault FieldTest :=
  match text.dropWhile (· ≠ '=') with
  | [] => .ok ⟨text, false⟩
  | _ :: rest => do
    (judgeValue (rest.takeWhile (· ≠ '='))).mapError .badValue
    return ⟨text.takeWhile (· ≠ '='), true⟩

/-! ## Reading -/

/-- What comes of reading: a result or a fault, or nothing where the reading breaks off. -/
abbrev Reading := ExceptT Fault Option

/-- What is being read, with the place in bytes where it starts. -/
inductive Stage where
  /-- Nothing yet. -/
  | start
  /-- A target, or a level that stands alone. -/
  | name (start : Nat)
  /-- The name of a span. -/
  | span (start : Nat)
  | field (start : Nat)
  /-- The bracket after a field. -/
  | fieldEnd
  /-- What may come after the brackets. -/
  | spanEnd
  | level (start : Nat)
  deriving DecidableEq, Repr

/-- A directive as far as it has been read. -/
structure Draft where
  target : Option (List Char) := none
  span : Option (List Char) := none
  field : Option FieldTest := none
  /-- What is being read. -/
  stage : Stage := .start
  deriving DecidableEq, Repr

/-- Whether a target or a level can start with a character. -/
def startsName (c : Char) : Bool := Text.isAlphanumeric c || c == '-' || c == ':' || c == '_'

/-- The piece of a directive between two places. -/
def piece (text : List Char) (start stop : Nat) : Reading (List Char) :=
  ExceptT.lift (Text.cutBytes start stop text)

/-- Takes one more character in, which is at the given place. -/
def Draft.step (text : List Char) (d : Draft) (place : Nat) (c : Char) : Reading Draft :=
  match d.stage with
  | .start =>
    if c = '[' then return { d with stage := .span (place + 1) }
    else if startsName c then return { d with stage := .name place }
    else throw .malformed
  | .name start =>
    if c = '=' then do
      return { d with target := some (← piece text start place), stage := .level (place + 1) }
    else if c = '[' then do
      return { d with target := some (← piece text start place), stage := .span (place + 1) }
    else return d
  | .span start =>
    if c = ']' then do
      return { d with span := some (← piece text start place), stage := .spanEnd }
    else if c = '\x7b' then do
      let name ← piece text start place
      return { d with span := if name = [] then none else some name, stage := .field (place + 1) }
    else return d
  | .field start =>
    if c = '\x7d' then do
      let test ← piece text start place
      if test = [] then throw .malformed
      else do
        let field ← ExceptT.mk (some (FieldTest.parse test))
        return { d with field := some field, stage := .fieldEnd }
    else return d
  | .fieldEnd => if c = ']' then return { d with stage := .spanEnd } else throw .malformed
  | .spanEnd => if c = '=' then return { d with stage := .level (place + 1) } else throw .malformed
  | .level _ => return d

/-- Takes characters in, the first of which is at the given place. -/
def Draft.read (text : List Char) (d : Draft) (place : Nat) : List Char → Reading Draft
  | [] => return d
  | c :: rest => do Draft.read text (← d.step text place c) (place + c.utf8Size) rest

/-- A level at the end of a directive, or nothing. -/
def levelOrNothing (text : List Char) : Reading Bound :=
  if text = [] then return unbounded
  else match bound? text with
  | some bound => return bound
  | none => throw .unknownLevel

/-- The directive that has been read. -/
def Draft.finish (text : List Char) (d : Draft) : Reading Directive :=
  match d.stage with
  | .name start => do
    let name ← piece text start (Text.byteCount text)
    match bound? name with
    | some bound => return ⟨none, d.span, d.field, bound⟩
    | none => return ⟨some name, d.span, d.field, unbounded⟩
  | .level start => do
    let bound ← levelOrNothing (← piece text start (Text.byteCount text))
    return ⟨d.target, d.span, d.field, bound⟩
  | .spanEnd => return ⟨d.target, d.span, d.field, unbounded⟩
  | _ => throw .malformed

/-- Reads a directive. -/
def Directive.parse (text : List Char) : Reading Directive := do
  (← Draft.read text {} 0 (Text.trim text)).finish text

end Fibonacci.Log
