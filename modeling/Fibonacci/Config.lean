/-
The configuration file.

A configuration file is a TOML document with up to three keys: `n`, an integer, and
`algorithm` and `report`, texts. A text that breaks the grammar is refused as a whole.
Otherwise the entries at the top are looked at one by one, in the order of the
document: a key that is none of the three, or a value of another type than the key
wants, is reported with its place, and the first such entry decides.
-/
import Fibonacci.Decimal.Layout
import Fibonacci.FileTree
import Fibonacci.Text.Printable
import Fibonacci.Toml.Document
import Fibonacci.Toml.Excerpt

set_option autoImplicit false

namespace Fibonacci

/-- What a configuration file says; a key that is absent says nothing. -/
structure Config where
  /-- The index. -/
  n : Option Int64 := none
  /-- The name of the algorithm. -/
  algorithm : Option String := none
  /-- The text that asks for a report. -/
  report : Option String := none
  deriving DecidableEq, Repr

namespace Config

/-! ## Faults -/

/-- What is wrong with an entry of a document. -/
inductive Fault where
  /-- No key has this name. -/
  | unknownKey (name : String)
  /-- The value is an `actual` and not an `expected`. -/
  | wrongType (actual expected : String)
  deriving DecidableEq, Repr

/-- The text shown to the user. -/
def Fault.message : Fault → String
  | .unknownKey name =>
    "unknown field `" ++ name ++ "`, expected one of `n`, `algorithm`, `report`"
  | .wrongType actual expected => "invalid type: " ++ actual ++ ", expected " ++ expected

/-- Why no configuration could be had. -/
inductive Error where
  /-- The file could not be read. -/
  | unreadable (path : String) (cause : FileError)
  /-- The text is no document. -/
  | grammar (text : String)
  /-- An entry is not as it should be. -/
  | entry (place : Toml.Excerpt) (fault : Fault)
  deriving DecidableEq, Repr

/-- The text shown to the user. What is said of a text that is no document is up to the
library that reads documents. -/
def Error.message (grammarText : String → String) : Error → String
  | .unreadable path cause => "Failed to read config " ++ path ++ ": " ++ cause.message
  | .grammar text => "Failed to parse config: " ++ grammarText text
  | .entry place fault => "Failed to parse config: " ++ place.render fault.message

/-! ## Naming a value of the wrong type -/

/-- A character of a text that is shown between quotes. -/
def shownChar (c : Char) : List Char :=
  match c with
  | '"' => ['\\', '"']
  | '\\' => ['\\', '\\']
  | '\n' => ['\\', 'n']
  | '\r' => ['\\', 'r']
  | '\t' => ['\\', 't']
  | '\x00' => ['\\', '0']
  | c =>
    if Text.isPrintable c then [c]
    else "\\u\x7b".toList ++ Text.hexDigits c.toNat ++ "\x7d".toList

/-- A text between quotes, on one line. -/
def shownText (text : String) : String :=
  "\"" ++ String.ofList (text.toList.flatMap shownChar) ++ "\""

/-- Floats are written out in full whatever their size; a half goes up. -/
def floatLayout : Layout where
  tie := .up
  isPlain _ := true
  plus := []

/-- A value as it is named when its type is wrong. -/
def describe : Toml.Node → String
  | .integer value => "integer `" ++ Text.signedNumeral value ++ "`"
  | .float value => "floating point `" ++ String.ofList (value.natural floatLayout) ++ "`"
  | .boolean value => "boolean `" ++ (if value then "true" else "false") ++ "`"
  | .string value => "string " ++ shownText value
  | .array _ => "sequence"
  | .tables _ => "sequence"
  | .moment => "map"
  | .table _ _ => "map"

/-! ## From a document -/

/-- A fault at an entry, with the stretch to show: the key for a key that is unknown,
the value, or the key again where the value has no stretch of its own, otherwise. -/
structure Misfit where
  /-- The stretch to show. -/
  span : Toml.Span
  /-- What is wrong. -/
  fault : Fault
  deriving DecidableEq, Repr

/-- The refusal of a value. -/
def misfit (entry : Toml.Entry Toml.Node) (expected : String) : Misfit :=
  ⟨entry.span.getD entry.key.span, .wrongType (describe entry.node) expected⟩

/-- The integer that an entry has to hold. -/
def integerOf (entry : Toml.Entry Toml.Node) : Except Misfit Int64 :=
  match entry.node with
  | .integer value => .ok (Int64.ofInt value)
  | _ => .error (misfit entry "i64")

/-- The text that an entry has to hold. -/
def textOf (entry : Toml.Entry Toml.Node) : Except Misfit String :=
  match entry.node with
  | .string value => .ok value
  | _ => .error (misfit entry "a string")

/-- Takes one more entry in. -/
def addEntry (c : Config) (entry : Toml.Entry Toml.Node) : Except Misfit Config :=
  if entry.key.name = "n" then
    (integerOf entry).map fun value => { c with n := some value }
  else if entry.key.name = "algorithm" then
    (textOf entry).map fun value => { c with algorithm := some value }
  else if entry.key.name = "report" then
    (textOf entry).map fun value => { c with report := some value }
  else
    .error ⟨entry.key.span, .unknownKey entry.key.name⟩

/-- The configuration that the entries of a document stand for, or the first misfit. -/
def ofEntries (entries : Toml.Entries) : Except Misfit Config := entries.foldlM addEntry {}

/-- Reads a configuration from its text. -/
def parse (text : String) : Except Error Config :=
  match Toml.Document.parse text.toList with
  | none => .error (.grammar text)
  | some document =>
    match ofEntries document.entries with
    | .ok config => .ok config
    | .error misfit => .error (.entry (Toml.Excerpt.of text.toList misfit.span) misfit.fault)

/-! ## From a file -/

/-- What came of reading a file, as a configuration. -/
def ofFile (path : String) (content : Except FileError String) : Except Error Config :=
  match content with
  | .ok text => parse text
  | .error cause => .error (.unreadable path cause)

/-- The environment variable that names a configuration file. -/
def pathVariable : String := "FIB_CONFIG"

/-- The path of the configuration file, if there is to be one: the option wins, and
without it the environment variable counts unless it is empty. -/
def choosePath (option environment : Option String) : Option String :=
  match option with
  | some path => some path
  | none => environment.filter (· ≠ "")

end Config
end Fibonacci
