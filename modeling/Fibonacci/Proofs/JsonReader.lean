/-
A reader for JSON.

Reports are written as JSON; this is the other side, a reader for the whole of the
format and not only for reports, so that what a report says to a stranger can be
stated. It takes blanks between tokens, every escape, numbers of any length, and arrays
and objects as deep as readers commonly allow. It refuses what the format refuses: a
comma too many, a zero too many, a control character inside quotes, half of a pair of
surrogates, anything after the value.

A number is kept as it stands in the text, with all its digits: the reader has no
machine word that a long one could overflow. The members of an object are kept in order
and none is dropped.
-/
import Fibonacci.Text.Hex
import Fibonacci.Text.Numeral
import Fibonacci.Toml.Quoted

set_option autoImplicit false

namespace Fibonacci.Json

open Toml (Reader Round collect prepend)

/-! ## Values -/

/-- The number `coefficient * 10 ^ exponent`, with a sign. -/
structure Number where
  negative : Bool
  /-- All digits that are written, those behind the point included. -/
  coefficient : Nat
  exponent : Int
  deriving DecidableEq, Repr

/-- A natural number. -/
def Number.ofNat (n : Nat) : Number := ⟨false, n, 0⟩

inductive Value where
  | null
  | boolean (value : Bool)
  | number (value : Number)
  | string (text : String)
  | array (elements : List Value)
  /-- The members in order, one that comes twice included. -/
  | object (members : List (String × Value))

/-! ## Texts -/

def escaped? : Char → Option Char
  | '"' => some '"'
  | '\\' => some '\\'
  | '/' => some '/'
  | 'b' => some '\x08'
  | 'f' => some '\x0c'
  | 'n' => some '\n'
  | 'r' => some '\r'
  | 't' => some '\t'
  | _ => none

/-- Where a reader stands inside an escape. A character beyond sixteen bits is written
as two units, and `high` is the first of them where it has been read. -/
inductive Escape where
  /-- After the backslash. -/
  | letter
  /-- Before `left + 1` digits of a unit, with the value of those read. -/
  | unit (high : Option Nat) (left value : Nat)
  /-- Before the backslash of the second unit. -/
  | secondSlash (high : Nat)
  /-- Before the `u` of the second unit. -/
  | secondLetter (high : Nat)
  deriving DecidableEq, Repr

def isHigh (unit : Nat) : Bool := decide (0xD800 ≤ unit ∧ unit < 0xDC00)

def isLow (unit : Nat) : Bool := decide (0xDC00 ≤ unit ∧ unit < 0xE000)

/-- What a unit comes to once all its digits are there. A second unit without a first
is no character, and neither is a first without a second. -/
def Escape.ofUnit (high : Option Nat) (unit : Nat) : Option (Char ⊕ Escape) :=
  match high with
  | none =>
    if isHigh unit then some (.inr (.secondSlash unit))
    else (Toml.scalar? unit).map .inl
  | some high =>
    if isLow unit then
      (Toml.scalar? (0x10000 + (high - 0xD800) * 0x400 + (unit - 0xDC00))).map .inl
    else none

/-- One character of an escape: the character that it stands for when it is complete, or
where the reader stands then. -/
def Escape.step : Escape → Char → Option (Char ⊕ Escape)
  | .letter, c => if c = 'u' then some (.inr (.unit none 3 0)) else (escaped? c).map .inl
  | .unit high left value, c =>
    match Text.hexValue? c with
    | none => none
    | some digit =>
      match left with
      | 0 => Escape.ofUnit high (value * 16 + digit)
      | left + 1 => some (.inr (.unit high left (value * 16 + digit)))
  | .secondSlash high, c => if c = '\\' then some (.inr (.secondLetter high)) else none
  | .secondLetter high, c => if c = 'u' then some (.inr (.unit (some high) 3 0)) else none

/-- Reads a text up to its closing quote; `state` is the escape that the reader is in. -/
def quoted? (state : Option Escape) : Reader (List Char)
  | [] => none
  | c :: rest =>
    match state with
    | some escape =>
      match escape.step c with
      | none => none
      | some (.inl character) => prepend character (quoted? none rest)
      | some (.inr escape') => quoted? (some escape') rest
    | none =>
      if c = '"' then some ([], rest)
      else if c = '\\' then quoted? (some .letter) rest
      else if c.toNat < 0x20 then none
      else prepend c (quoted? none rest)

/-! ## Numbers -/

/-- Reads a run of at least one digit. -/
def digits? (text : List Char) : Option (List Char × List Char) :=
  if (text.takeWhile Text.isDigit).isEmpty then none
  else some (text.takeWhile Text.isDigit, text.dropWhile Text.isDigit)

/-- Reads the digits before the point: a lone zero, or a run that does not start with
one. -/
def whole? : Reader (List Char)
  | '0' :: rest => some (['0'], rest)
  | text => digits? text

/-- Reads the digits behind the point, if there is one. -/
def fraction? : Reader (List Char)
  | '.' :: rest => digits? rest
  | text => some ([], text)

/-- Takes a minus sign off, if there is one. -/
def minus : List Char → Bool × List Char
  | '-' :: rest => (true, rest)
  | text => (false, text)

/-- Takes the sign of an exponent off, if there is one. -/
def sign : List Char → Bool × List Char
  | '+' :: rest => (false, rest)
  | text => minus text

/-- Reads an exponent, if there is one. -/
def exponent? : Reader Int
  | [] => some (0, [])
  | c :: rest =>
    if c = 'e' || c = 'E' then do
      let (negative, rest) := sign rest
      let (digits, rest) ← digits? rest
      return (if negative then -(Text.valueOf digits : Int) else Text.valueOf digits, rest)
    else some (0, c :: rest)

def number? (text : List Char) : Option (Number × List Char) := do
  let (negative, text) := minus text
  let (whole, text) ← whole? text
  let (places, text) ← fraction? text
  let (exponent, text) ← exponent? text
  return (⟨negative, Text.valueOf (whole ++ places), exponent - places.length⟩, text)

/-! ## Arrays and objects -/

def isBlank (c : Char) : Bool := c == ' ' || c == '\t' || c == '\n' || c == '\r'

def skipBlanks (text : List Char) : List Char := text.dropWhile isBlank

/-- Reads a value that holds no other values. -/
def scalar? : Reader Value
  | '"' :: rest => (quoted? none rest).map fun (text, rest) => (.string (String.ofList text), rest)
  | 'n' :: 'u' :: 'l' :: 'l' :: rest => some (.null, rest)
  | 't' :: 'r' :: 'u' :: 'e' :: rest => some (.boolean true, rest)
  | 'f' :: 'a' :: 'l' :: 's' :: 'e' :: rest => some (.boolean false, rest)
  | text => (number? text).map fun (value, rest) => (.number value, rest)

/-- One element of an array; a comma has to be followed by another. -/
def elementRound (value : Reader Value) (text : List Char) : Option (Round Value) := do
  let (element, rest) ← value (skipBlanks text)
  match skipBlanks rest with
  | ',' :: rest => return .more element rest
  | ']' :: rest => return .last element rest
  | _ => none

/-- Reads a name, the colon and a value. -/
def member? (value : Reader Value) (text : List Char) :
    Option ((String × Value) × List Char) :=
  match text with
  | '"' :: rest => do
    let (name, rest) ← quoted? none rest
    match skipBlanks rest with
    | ':' :: rest =>
      let (content, rest) ← value (skipBlanks rest)
      return ((String.ofList name, content), rest)
    | _ => none
  | _ => none

/-- One member of an object; a comma has to be followed by another. -/
def memberRound (value : Reader Value) (text : List Char) :
    Option (Round (String × Value)) := do
  let (member, rest) ← member? value (skipBlanks text)
  match skipBlanks rest with
  | ',' :: rest => return .more member rest
  | '\x7d' :: rest => return .last member rest
  | _ => none

/-- Reads what is between brackets, after the opening one. -/
def array? (value : Reader Value) (text : List Char) : Option (Value × List Char) :=
  match skipBlanks text with
  | ']' :: rest => some (.array [], rest)
  | _ => (collect (elementRound value) text).map fun (elements, rest) => (.array elements, rest)

/-- Reads what is between braces, after the opening one. -/
def object? (value : Reader Value) (text : List Char) : Option (Value × List Char) :=
  match skipBlanks text with
  | '\x7d' :: rest => some (.object [], rest)
  | _ => (collect (memberRound value) text).map fun (members, rest) => (.object members, rest)

/-- Reads a value, arrays and objects nested at most `depth` deep. -/
def value? : Nat → Reader Value
  | 0, text => scalar? text
  | depth + 1, text =>
    match text with
    | '[' :: rest => array? (value? depth) rest
    | '\x7b' :: rest => object? (value? depth) rest
    | text => scalar? text

/-- How deep arrays and objects may be nested. -/
def maxDepth : Nat := 127

/-- Reads a whole text as one value. -/
def read (text : List Char) : Option Value := do
  let (value, rest) ← value? maxDepth (skipBlanks text)
  if (skipBlanks rest).isEmpty then return value else none

example : (read "\x7b\"a\":[1, -2.5e3, \"\\u00e9\\ud83d\\ude00\"]\x7d ".toList).isSome := by decide

example : (read "\x7b\"a\":1,\x7d".toList).isNone ∧ (read "[01]".toList).isNone
    ∧ (read "\"\\ud83d\"".toList).isNone ∧ (read "1 2".toList).isNone := by decide

end Fibonacci.Json
