/-
The filter on events.

A filter is a list of directives. Of the directives that concern an event one decides:
that with the longest target, among those one with a field before one without, then the
one whose field comes last in the alphabet, and among equals the later one. Where none
concerns the event, it is not recorded.

The program opens no spans, so a directive for a span, or for a value recorded in one,
never concerns an event.

It can also be asked whether a level is enabled for a target at all. No particular event
is meant then, and a directive for a field counts like any other.
-/
import Fibonacci.Log.Directive
import Fibonacci.Text.Split

set_option autoImplicit false

namespace Fibonacci.Log

/-! ## Deciding -/

/-- The directives in force. -/
abbrev Filter := List Directive

/-- The filter where nothing is asked for: warnings and errors. -/
def defaultFilter : Filter := [⟨none, none, none, some .warn⟩]

/-- Whether a directive can concern events outside of spans. -/
def Directive.isForEvents (d : Directive) : Bool :=
  d.span.isNone && !(d.field.any (·.valued))

/-- Whether a directive is for a target. -/
def Directive.coversTarget (d : Directive) (target : String) : Bool :=
  match d.target with
  | none => true
  | some start => start.isPrefixOf target.toList

/-- Whether an event has the field that a directive is for. -/
def Directive.coversFields (d : Directive) (names : List String) : Bool :=
  match d.field with
  | none => true
  | some test => names.any (·.toList == test.name)

/-- Whether a directive concerns a target, with the names of the fields where an event is
meant. -/
def Directive.concerns (d : Directive) (target : String) (names : Option (List String)) : Bool :=
  d.isForEvents && d.coversTarget target && names.all d.coversFields

/-- The length of the target, with one for every target below all. -/
def Directive.reach (d : Directive) : Nat :=
  match d.target with
  | none => 0
  | some start => start.length + 1

/-- The name of the field. -/
def Directive.fieldName (d : Directive) : Option (List Char) := d.field.map (·.name)

/-- Whether the second of two names of fields comes before the first. -/
def fieldBefore : Option (List Char) → Option (List Char) → Bool
  | some a, some b => decide (b < a)
  | some _, none => true
  | none, _ => false

/-- Whether the first of two directives decides although the second is the later. -/
def Directive.outweighs (d later : Directive) : Bool :=
  later.reach < d.reach || (later.reach == d.reach && fieldBefore d.fieldName later.fieldName)

/-- The one of two directives that decides, the second being the later. -/
def heavier (best : Option Directive) (later : Directive) : Option Directive :=
  match best with
  | none => some later
  | some d => if d.outweighs later then some d else some later

/-- The directive that decides. -/
def Filter.decisive (f : Filter) (target : String) (names : Option (List String)) :
    Option Directive :=
  (List.filter (·.concerns target names) f).foldl heavier none

/-- Whether an event is recorded. -/
def Filter.passes (f : Filter) (e : Event) : Bool :=
  (f.decisive e.target (some e.fieldNames)).any fun d => allows d.bound e.level

/-- Whether a level is enabled for a target. -/
def Filter.enables (f : Filter) (level : Level) (target : String) : Bool :=
  (f.decisive target none).any fun d => allows d.bound level

/-! ## The environment -/

/-- The environment variable that holds the filter. -/
def filterVariable : String := "RUST_LOG"

/-- A directive that is left out, and why. -/
structure Complaint where
  directive : String
  reason : String
  deriving DecidableEq, Repr

/-- The line that says so. -/
def Complaint.text (c : Complaint) : String :=
  "ignoring `" ++ c.directive ++ "`: " ++ c.reason ++ "\n"

/-- What the value of the environment variable leads to: the complaints, in order, and then
the filter, unless the program does not get that far. -/
structure Setup where
  complaints : List Complaint := []
  filter : Option Filter := some defaultFilter
  deriving DecidableEq, Repr

/-- Reads directives up to the first where the reading breaks off, if there is one. Those
with a fault are complained about and left out. -/
def readDirectives : List (List Char) → List Complaint × Option Filter
  | [] => ([], some [])
  | text :: rest =>
    match (Directive.parse text).run with
    | none => ([], none)
    | some (.ok directive) =>
      let (complaints, filter) := readDirectives rest
      (complaints, filter.map (directive :: ·))
    | some (.error fault) =>
      let (complaints, filter) := readDirectives rest
      (⟨String.ofList text, fault.message⟩ :: complaints, filter)

/-- The filter for the directives that are left; where none is, the default holds. -/
def Filter.orDefault : Filter → Filter
  | [] => defaultFilter
  | directives => directives

/-- Reads the value of the environment variable; empty directives do not count. -/
def read (value : Option String) : Setup :=
  let texts := (Text.splitAt ',' (value.getD "").toList).filter (· ≠ [])
  let (complaints, filter) := readDirectives texts
  ⟨complaints, filter.map Filter.orDefault⟩

/-- A blank in front shifts the cut behind the name into the middle of its one character. -/
example : (read (some " é=info")).filter = none := by decide +kernel

end Fibonacci.Log
