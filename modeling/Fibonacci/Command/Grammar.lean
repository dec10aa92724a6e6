/-
Reading arguments by a grammar.

The arguments of a command are read from left to right into a record of the command's
own, `σ`. The grammar says which options there are and how a value goes into the
record. An option takes its value from the same argument, after `=` or right behind a
letter, or from the next one. A value that came in an argument of its own is looked at
only when the next argument is taken up, so an argument with no place is noticed before
a bad value in front of it.

The flags for help and for the version end the reading where they stand.
-/
import Fibonacci.Command.Usage
import Fibonacci.Text.Numeral

set_option autoImplicit false

namespace Fibonacci.Command

/-! ## Grammars -/

/-- A place in the record for one value. -/
structure Slot (σ : Type) where
  /-- How the place is named to the user. -/
  label : String
  /-- Whether it has been filled. -/
  isSet : σ → Bool
  /-- Fills it, if the value is acceptable. -/
  store : String → σ → Except UsageError σ

/-- An option with its names. -/
structure OptionName (σ : Type) where
  /-- The name after two hyphens. -/
  long : String
  /-- The letter after one hyphen. -/
  short : Option Char
  /-- Where its value goes. -/
  slot : Slot σ

/-- What a command accepts. -/
structure Grammar (σ : Type) where
  options : List (OptionName σ)
  /-- Whether there is a flag for the version. -/
  hasVersion : Bool
  /-- The place for a word that belongs to no option. -/
  word : Option (Slot σ)
  /-- Whether an argument that looks like a negative number is a value. -/
  takesNegatives : Bool
  /-- The fault of a word too many, given the labels of what came before. -/
  surplus : String → List String → UsageError

/-- Why the reading ended early. -/
inductive Stop where
  /-- Help was asked for. -/
  | help
  /-- The version was asked for. -/
  | version
  /-- Something is wrong. -/
  | fault (error : UsageError)
  deriving DecidableEq, Repr

/-! ## Arguments -/

/-- An argument by its form. -/
inductive Argument where
  /-- Two hyphens: only words follow. -/
  | separator
  /-- Two hyphens and a name, with the value after the first `=`. -/
  | long (name : String) (value : Option String)
  /-- One hyphen and a letter, with all that follows. -/
  | short (letter : Char) (rest : List Char)
  /-- Anything else. -/
  | word
  deriving DecidableEq, Repr

/-- Tells the form of an argument. -/
def Argument.of (text : String) : Argument :=
  match text.toList with
  | ['-', '-'] => .separator
  | '-' :: '-' :: rest =>
    .long (String.ofList (rest.takeWhile (· ≠ '=')))
      (match rest.dropWhile (· ≠ '=') with
        | [] => none
        | _ :: value => some (String.ofList value))
  | '-' :: letter :: rest => .short letter rest
  | _ => .word

/-- The part of a number that has been seen. -/
structure NumberShape where
  /-- Whether the point has been seen. -/
  point : Bool
  /-- Whether the mark of the exponent has been seen. -/
  exponent : Bool

/-- Whether digits go on as a number: at most one point, before at most one `e`, which
is not the last character. -/
def goesOnAsNumber (shape : NumberShape) : List Char → Bool
  | [] => true
  | c :: rest =>
    if Text.isDigit c then goesOnAsNumber shape rest
    else if c = '.' && !shape.point && !shape.exponent then
      goesOnAsNumber { shape with point := true } rest
    else if c = 'e' && !shape.exponent && !rest.isEmpty then
      goesOnAsNumber { shape with exponent := true } rest
    else false

/-- Whether the characters after a hyphen look like a number. -/
def looksNumeric : List Char → Bool
  | [] => false
  | c :: rest => Text.isDigit c && goesOnAsNumber ⟨false, false⟩ rest

/-! ## Reading -/

/-- A value that is still to come, or still to be looked at. -/
inductive Pending (σ : Type) where
  /-- None. -/
  | none
  /-- An option whose value is the next argument. -/
  | awaited (slot : Slot σ)
  /-- A value that has not been looked at. -/
  | held (slot : Slot σ) (value : String)

/-- How far the reading has come. -/
structure State (σ : Type) where
  record : σ
  /-- The value that is pending. -/
  pending : Pending σ
  /-- Whether the place for a word is taken. -/
  wordTaken : Bool
  /-- Whether only words follow. -/
  onlyWords : Bool

/-- The start of a reading. -/
def State.initial {σ : Type} (record : σ) : State σ := ⟨record, .none, false, false⟩

/-- Fills a place. -/
def Slot.fill {σ : Type} (slot : Slot σ) (value : String) (record : σ) : Except UsageError σ :=
  if slot.isSet record then .error (.usedTwice slot.label) else slot.store value record

/-- Looks at the value that is pending. -/
def State.settle {σ : Type} (s : State σ) : Except UsageError (State σ) :=
  match s.pending with
  | .none => .ok s
  | .awaited slot => .error (.valueRequired slot.label)
  | .held slot value =>
    match slot.fill value s.record with
    | .ok record => .ok { s with record := record, pending := .none }
    | .error fault => .error fault

namespace Grammar

variable {σ : Type}

/-- Settles what is pending, and goes on. -/
def after (s : State σ) (go : State σ → Except Stop (State σ)) : Except Stop (State σ) :=
  match s.settle with
  | .ok s => go s
  | .error fault => .error (.fault fault)

/-- The labels of the places that are filled. -/
def given (g : Grammar σ) (record : σ) : List String :=
  ((g.options.map (·.slot) ++ g.word.toList).filter (·.isSet record)).map (·.label)

/-- The labels of what came before a word too many. A value that turns out bad counts
as given; an option that turns out to be given twice does not count at all. -/
def givenBefore (g : Grammar σ) (s : State σ) : List String :=
  match s.settle with
  | .ok s => g.given s.record
  | .error (.usedTwice label) => (g.given s.record).erase label
  | .error _ =>
    match s.pending with
    | .held slot _ => g.given s.record ++ [slot.label]
    | _ => g.given s.record

/-- Takes a word that belongs to no option. -/
def takeWord (g : Grammar σ) (s : State σ) (text : String) : Except Stop (State σ) :=
  match g.word, s.wordTaken with
  | some slot, false =>
    after s fun s => .ok { s with pending := .held slot text, wordTaken := true }
  | _, _ => .error (.fault (g.surplus text (g.givenBefore s)))

/-- Takes a value or a word. -/
def takeValue (g : Grammar σ) (s : State σ) (text : String) : Except Stop (State σ) :=
  match s.pending with
  | .awaited slot => .ok { s with pending := .held slot text }
  | _ => g.takeWord s text

/-- Takes an option, with its value if it came in the same argument. -/
def takeOption (s : State σ) (slot : Slot σ) (value : Option String) : Except Stop (State σ) :=
  after s fun s =>
    match value with
    | none => .ok { s with pending := .awaited slot }
    | some value =>
      match slot.fill value s.record with
      | .ok record => .ok { s with record := record }
      | .error fault => .error (.fault fault)

/-- Takes a flag, which takes no value. -/
def takeFlag (s : State σ) (stop : Stop) : Except Stop (State σ) := after s fun _ => .error stop

/-- Takes an argument with two hyphens and a name. -/
def takeLong (g : Grammar σ) (s : State σ) (name : String) (value : Option String) :
    Except Stop (State σ) :=
  match g.options.find? (·.long = name) with
  | some option => takeOption s option.slot value
  | none =>
    if name = "help" || (name = "version" && g.hasVersion) then
      match value with
      | some value => .error (.fault (.unexpectedValue value ("--" ++ name)))
      | none => takeFlag s (if name = "help" then .help else .version)
    else .error (.fault (.unexpected ("--" ++ name)))

/-- The value right behind a letter; one `=` in front of it does not belong to it. -/
def attached : List Char → Option String
  | [] => none
  | '=' :: value => some (String.ofList value)
  | value => some (String.ofList value)

/-- Takes an argument with one hyphen and a letter. -/
def takeShort (g : Grammar σ) (s : State σ) (letter : Char) (rest : List Char) :
    Except Stop (State σ) :=
  match g.options.find? (·.short = some letter) with
  | some option => takeOption s option.slot (attached rest)
  | none =>
    if letter = 'h' then takeFlag s .help
    else if letter = 'V' && g.hasVersion then takeFlag s .version
    else .error (.fault (.unexpected (String.ofList ['-', letter])))

/-- Whether an argument that looks like a negative number would be a value here. -/
def expectsNegative (g : Grammar σ) (s : State σ) : Bool :=
  g.takesNegatives &&
    match s.pending with
    | .awaited _ => true
    | _ => g.word.isSome && !s.wordTaken

/-- Takes one argument. -/
def step (g : Grammar σ) (s : State σ) (text : String) : Except Stop (State σ) :=
  if s.onlyWords then g.takeWord s text
  else match Argument.of text with
    | .separator => .ok { s with onlyWords := true }
    | .long name value => g.takeLong s name value
    | .short letter rest =>
      if g.expectsNegative s && looksNumeric (letter :: rest) then g.takeValue s text
      else g.takeShort s letter rest
    | .word => g.takeValue s text

/-- Reads all arguments into a record. -/
def read (g : Grammar σ) (record : σ) (arguments : List String) : Except Stop σ := do
  let s ← arguments.foldlM g.step (State.initial record)
  match s.settle with
  | .ok s => .ok s.record
  | .error fault => .error (.fault fault)

end Grammar
end Fibonacci.Command
