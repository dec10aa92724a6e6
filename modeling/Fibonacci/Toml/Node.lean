/-
The values of a document.

Besides the scalars there are arrays and tables. A table remembers how it came about,
because that decides what may still be added to it: one written in braces is complete,
one opened by a header is complete but for its own lines, one that a longer header
passed through may still get a header of its own, and one that a dotted key passed
through may get more dotted keys. An array whose elements have headers grows by one
table at a time.

Entries are kept in the order in which the document gives them, each with its key as
written and the stretch of text that holds its value, where there is one.
-/
import Fibonacci.Decimal.Binary64
import Fibonacci.Toml.Reader

set_option autoImplicit false

namespace Fibonacci.Toml

/-- A key with its place. -/
structure Key where
  /-- The key itself, escapes resolved. -/
  name : String
  /-- The key as written, with its quotes. -/
  span : Span
  deriving DecidableEq, Repr

/-- How a table came about. -/
inductive Origin where
  /-- Written in braces. -/
  | braces
  /-- Opened by a header of its own. -/
  | header
  /-- Passed through by the header of another table. -/
  | passed
  /-- Passed through by a dotted key. -/
  | dotted
  deriving DecidableEq, Repr

/-- A key and what is stored under it. -/
structure Entry (α : Type) where
  key : Key
  /-- The stretch of text that holds the value, where the value has one of its own. -/
  span : Option Span
  /-- The value. -/
  node : α

/-- A value. -/
inductive Node where
  /-- A whole number. -/
  | integer (value : Int)
  /-- A double. -/
  | float (value : Binary64)
  /-- A truth value. -/
  | boolean (value : Bool)
  /-- A text. -/
  | string (value : String)
  /-- A date, a time or both. -/
  | moment
  /-- An array in brackets. -/
  | array (elements : List Node)
  | table (origin : Origin) (entries : List (Entry Node))
  /-- An array whose elements have headers. -/
  | tables (elements : List (List (Entry Node)))

/-- The entries of a table, in order. -/
abbrev Entries := List (Entry Node)

namespace Entries

/-- The entry under a name. -/
def find? (entries : Entries) (name : String) : Option (Entry Node) :=
  List.find? (fun e => e.key.name == name) entries

/-- The entries without the one under a name. -/
def erase (entries : Entries) (name : String) : Entries :=
  List.filter (fun e => e.key.name != name) entries

/-- The entries with another value under a name, in the same place. -/
def replace (entries : Entries) (name : String) (span : Option Span) (node : Node) : Entries :=
  List.map (fun e => if e.key.name = name then ⟨e.key, span, node⟩ else e) entries

/-- The entries with one more at the end. -/
def add (entries : Entries) (key : Key) (span : Option Span) (node : Node) : Entries :=
  entries ++ [⟨key, span, node⟩]

/-! ## Dotted keys -/

/-- Stores a value under a dotted key. The tables on the way come about as needed. A
table that a header passed through may be passed again, but the value itself goes only
into a table that dotted keys have made, and never under a name in use. -/
def place (span : Span) (node : Node) : List Key → Entries → Option Entries
  | [], _ => none
  | [key], entries =>
    match entries.find? key.name with
    | some _ => none
    | none => some (entries.add key span node)
  | key :: more, entries =>
    match entries.find? key.name with
    | none => do
      let inner ← place span node more []
      return entries.add key none (.table .dotted inner)
    | some ⟨_, at_, .table .dotted inner⟩ => do
      let inner ← place span node more inner
      return entries.replace key.name at_ (.table .dotted inner)
    | some ⟨_, at_, .table .passed inner⟩ =>
      if more.length = 1 then none
      else do
        let inner ← place span node more inner
        return entries.replace key.name at_ (.table .passed inner)
    | some ⟨_, at_, .tables elements⟩ =>
      if more.length = 1 then none
      else do
        let inner ← place span node more (elements.getLast?.getD [])
        return entries.replace key.name at_ (.tables (elements.dropLast ++ [inner]))
    | some _ => none

/-! ## Headers -/

/-- Changes the table at the end of a path of names, which come about as needed. An
array with headers stands for its last element. -/
def descend (change : Entries → Option Entries) : List Key → Entries → Option Entries
  | [], entries => change entries
  | key :: more, entries =>
    match entries.find? key.name with
    | none => do
      let inner ← descend change more []
      return entries.add key none (.table .passed inner)
    | some ⟨_, _, .table .braces _⟩ => none
    | some ⟨_, at_, .table origin inner⟩ => do
      let inner ← descend change more inner
      return entries.replace key.name at_ (.table origin inner)
    | some ⟨_, at_, .tables elements⟩ => do
      let inner ← descend change more (elements.getLast?.getD [])
      return entries.replace key.name at_ (.tables (elements.dropLast ++ [inner]))
    | some _ => none

/-- Opens a table and fills it. A table that headers have passed through keeps its
content, moves to the end and takes the place of the header. -/
def openTable (key : Key) (span : Span) (fill : Entries → Option Entries) (entries : Entries) :
    Option Entries :=
  match entries.find? key.name with
  | none => do
    let inner ← fill []
    return entries.add key span (.table .header inner)
  | some ⟨_, _, .table .passed inner⟩ => do
    let inner ← fill inner
    return (entries.erase key.name).add key span (.table .header inner)
  | some _ => none

/-- Opens one more table of an array with headers and fills it. -/
def openElement (key : Key) (span : Span) (fill : Entries → Option Entries) (entries : Entries) :
    Option Entries :=
  match entries.find? key.name with
  | none => do
    let inner ← fill []
    return entries.add key span (.tables [inner])
  | some ⟨_, at_, .tables elements⟩ => do
    let inner ← fill []
    return entries.replace key.name (at_.map (·.through span)) (.tables (elements ++ [inner]))
  | some _ => none

end Entries
end Fibonacci.Toml
