/-
Documents.

A document is read in two stages. The first takes the text apart into sections: the
lines before any header, and each header with the lines after it. The second puts the
sections into one table, the later over the earlier, and refuses what the rules on
tables refuse. All faults of either stage are faults of the grammar; the program does
not tell them apart.

What the program looks at is the list of entries at the top, in order, each with the
place of its key and of its value.
-/
import Fibonacci.Toml.Value

set_option autoImplicit false

namespace Fibonacci.Toml

/-! ## Sections -/

/-- The header of a section. -/
structure Header where
  /-- The names in the brackets. -/
  keys : List Key
  /-- Whether the brackets are doubled, for one more element of an array. -/
  element : Bool
  /-- The stretch from bracket to bracket. -/
  span : Span

/-- A header, if there is one, and the pairs after it. -/
structure Section where
  header : Option Header
  /-- The pairs, in order. -/
  pairs : List Pair

/-- The stretch that a section covers, from its header to its last value. -/
def Section.span (s : Section) (header : Header) : Span :=
  match s.pairs.getLast? with
  | none => header.span
  | some pair => header.span.through pair.span

/-- Reads a header without what follows on its line. -/
def header? (text : List Char) : Option (Header × List Char) :=
  match text with
  | '[' :: '[' :: rest => do
    let (keys, rest) ← key? rest
    match rest with
    | ']' :: ']' :: rest => return (⟨keys, true, Span.between text rest⟩, rest)
    | _ => none
  | '[' :: rest => do
    let (keys, rest) ← key? rest
    match rest with
    | ']' :: rest => return (⟨keys, false, Span.between text rest⟩, rest)
    | _ => none
  | _ => none

/-- Reads a pair and the rest of its line. -/
def pairLine? (text : List Char) : Option (Pair × List Char) := do
  let (pair, rest) ← pair? (value? maxDepth) text
  let rest ← trailing? rest
  return (pair, rest)

/-- Reads a header and the rest of its line. -/
def headerLine? (text : List Char) : Option (Header × List Char) := do
  let (header, rest) ← header? text
  let rest ← trailing? rest
  return (header, rest)

/-- The first line of a text, unless it is a pair: `none` at the end of the text and
at a header, otherwise what follows a line that is blank or a comment. -/
inductive Line where
  /-- The text is over. -/
  | over
  /-- A header starts here. -/
  | header
  /-- An empty line, with what follows it. -/
  | empty (rest : Option (List Char))
  /-- A pair starts here. -/
  | pair

/-- Tells what starts after the blanks. -/
def Line.of : List Char → Line
  | [] => .over
  | '[' :: _ => .header
  | '#' :: rest => .empty (lineEnd? (skipComment ('#' :: rest)))
  | '\n' :: rest => .empty (some rest)
  | '\r' :: rest => .empty (newline? ('\r' :: rest))
  | _ => .pair

/-- One line of a section; an empty line has no pair. -/
def lineRound (text : List Char) : Option (Round (Option Pair)) :=
  let text := skipGap text
  match Line.of text with
  | .over => some (.done text)
  | .header => some (.done text)
  | .empty rest => rest.map (.more none)
  | .pair => (pairLine? text).map fun (pair, rest) => .more (some pair) rest

/-- Reads the pairs up to the next header. -/
def pairs? (text : List Char) : Option (List Pair × List Char) :=
  (collect lineRound text).map fun (lines, rest) => (lines.filterMap id, rest)

/-- One section with a header. -/
def sectionRound (text : List Char) : Option (Round Section) :=
  match text with
  | [] => some (.done [])
  | _ => do
    let (header, rest) ← headerLine? text
    let (pairs, rest) ← pairs? rest
    return .more ⟨some header, pairs⟩ rest

/-- Drops one byte order mark. -/
def skipMark : List Char → List Char
  | '\uFEFF' :: rest => rest
  | text => text

/-- Reads a whole text as sections. -/
def sections? (text : List Char) : Option (List Section) := do
  let (pairs, rest) ← pairs? (skipMark text)
  let (sections, _) ← collect sectionRound rest
  return ⟨none, pairs⟩ :: sections

/-! ## Documents -/

/-- Puts a section into the table of the whole document. -/
def Entries.addSection (entries : Entries) (s : Section) : Option Entries :=
  match s.header with
  | none => entries.placeAll s.pairs
  | some header =>
    match header.keys.getLast? with
    | none => none
    | some key =>
      let span := s.span header
      let put := if header.element then Entries.openElement else Entries.openTable
      Entries.descend (put key span (Entries.placeAll s.pairs)) header.keys.dropLast entries

/-- A document. -/
structure Document where
  /-- The entries at the top, in order. -/
  entries : Entries

/-- Reads a text as a document; nothing for a text that breaks the grammar. -/
def Document.parse (text : List Char) : Option Document := do
  let sections ← sections? text
  let entries ← sections.foldlM Entries.addSection []
  return ⟨entries⟩

end Fibonacci.Toml
