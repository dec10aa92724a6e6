/-
Reading keys and values.

A key is a sequence of names with points between them, each bare or quoted. A value is
told by its first character. Arrays and tables in braces hold further values, and the
depth to which they may do so is limited; `value?` recurses on what is left of it, and
the element readers are handed the reader for one level less.
-/
import Fibonacci.Toml.Moment
import Fibonacci.Toml.Node
import Fibonacci.Toml.Number
import Fibonacci.Toml.Quoted

set_option autoImplicit false

namespace Fibonacci.Toml

/-- How deep arrays and braces may be nested, and how many names a key may have. -/
def maxDepth : Nat := 79

/-! ## Keys -/

/-- A character of a bare name. -/
def isBare (c : Char) : Bool :=
  ('a' ≤ c && c ≤ 'z') || ('A' ≤ c && c ≤ 'Z') || Text.isDigit c || c == '_' || c == '-'

/-- Reads a bare name. -/
def bareName? (text : List Char) : Option (List Char × List Char) :=
  if (text.takeWhile isBare).isEmpty then none
  else some (text.takeWhile isBare, text.dropWhile isBare)

/-- Reads one name. -/
def name? (text : List Char) : Option (List Char × List Char) :=
  match text with
  | '"' :: _ => quotedLine? text
  | '\'' :: _ => quotedLine? text
  | _ => bareName? text

/-- One name of a key, with the blanks around it and the point after it, if any. -/
def keyRound (text : List Char) : Option (Round Key) := do
  let text := skipGap text
  let (name, rest) ← name? text
  let key : Key := ⟨String.ofList name, Span.between text rest⟩
  match skipGap rest with
  | '.' :: rest => return .more key rest
  | rest => return .last key rest

/-- Reads a key. -/
def key? (text : List Char) : Option (List Key × List Char) := do
  let (keys, rest) ← collect keyRound text
  if keys.length ≤ maxDepth then return (keys, rest) else none

/-- Reads a key and the sign that binds a value to it. -/
def binding? (text : List Char) : Option (List Key × List Char) := do
  let (keys, rest) ← key? text
  match rest with
  | '=' :: rest => return (keys, skipGap rest)
  | _ => none

/-! ## Scalars -/

/-- Reads a value that starts like a number: a date or time, a float, or an integer. -/
def numeric? (text : List Char) : Option (Node × List Char) :=
  match Moment.skip? text with
  | some rest => some (.moment, rest)
  | none =>
    match Number.float? text with
    | some (value, rest) => some (.float value, rest)
    | none => (Number.integer? text).map fun (value, rest) => (.integer value, rest)

/-- Reads a value that holds no other values. -/
def scalar : Reader Node
  | [] => none
  | c :: rest =>
    if c = '"' || c = '\'' then
      (quoted? (c :: rest)).map fun (text, rest) => (.string (String.ofList text), rest)
    else if c = '+' || c = '-' || Text.isDigit c then numeric? (c :: rest)
    else match c :: rest with
      | 't' :: 'r' :: 'u' :: 'e' :: rest => some (.boolean true, rest)
      | 'f' :: 'a' :: 'l' :: 's' :: 'e' :: rest => some (.boolean false, rest)
      | text => (Number.namedFloat? text).map fun (value, rest) => (.float value, rest)

/-! ## Arrays and braces -/

/-- One element of an array; a comma may follow the last. -/
def elementRound (value : Reader Node) (text : List Char) : Option (Round Node) := do
  match ← skipLines false text with
  | ']' :: rest => return .done rest
  | text =>
    let (node, rest) ← value text
    match ← skipLines false rest with
    | ',' :: rest => return .more node rest
    | ']' :: rest => return .last node rest
    | _ => none

/-- A key and its value, with the place of the value. -/
structure Pair where
  /-- The names of the key. -/
  keys : List Key
  /-- The value. -/
  node : Node
  /-- The stretch that holds the value. -/
  span : Span

/-- Reads a key, the sign and a value. -/
def pair? (value : Reader Node) (text : List Char) : Option (Pair × List Char) := do
  let (keys, text) ← binding? text
  let (node, rest) ← value text
  return (⟨keys, node, Span.between text rest⟩, rest)

/-- One pair inside braces; a comma has to be followed by another. -/
def pairRound (value : Reader Node) (text : List Char) : Option (Round Pair) := do
  let (pair, rest) ← pair? value text
  match skipGap rest with
  | ',' :: rest => return .more pair rest
  | '\x7d' :: rest => return .last pair rest
  | _ => none

/-- Stores pairs one after the other. -/
def Entries.placeAll (pairs : List Pair) (entries : Entries) : Option Entries :=
  pairs.foldlM (fun entries pair => Entries.place pair.span pair.node pair.keys entries) entries

/-- Reads the pairs of a table in braces, after the opening one. -/
def braces? (value : Reader Node) (text : List Char) : Option (Node × List Char) :=
  match skipGap text with
  | '\x7d' :: rest => some (.table .braces [], rest)
  | text => do
    let (pairs, rest) ← collect (pairRound value) text
    let entries ← Entries.placeAll pairs []
    return (.table .braces entries, rest)

/-- Reads a value, arrays and braces nested at most `depth` deep. -/
def value? : Nat → Reader Node
  | 0, text => scalar text
  | depth + 1, text =>
    match text with
    | '[' :: rest =>
      (collect (elementRound (value? depth)) rest).map fun (nodes, rest) => (.array nodes, rest)
    | '\x7b' :: rest => braces? (value? depth) rest
    | text => scalar text

end Fibonacci.Toml
