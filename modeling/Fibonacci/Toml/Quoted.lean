/-
Quoted texts.

There are four forms. Between double quotes a backslash starts an escape; between
single quotes every character stands for itself. Either quote written three times
opens a text of several lines: a line end right after the opening is dropped, the
others read as one line feed however they are written, up to two quotes may stand
before the closing three, and in the form with escapes a backslash at the end of a
line takes the line end and all blanks after it away.

Each form is read one character at a time by a small machine, so reading is recursion
on the text.
-/
import Fibonacci.Text.Hex
import Fibonacci.Toml.Reader

set_option autoImplicit false

namespace Fibonacci.Toml

/-! ## Escapes -/

/-- The character that a letter after a backslash stands for. -/
def escaped? : Char → Option Char
  | 'b' => some '\x08'
  | 't' => some '\t'
  | 'n' => some '\n'
  | 'f' => some '\x0c'
  | 'r' => some '\r'
  | '"' => some '"'
  | '\\' => some '\\'
  | _ => none

/-- The number of digits after a letter that announces a code point. -/
def codeWidth? : Char → Option Nat
  | 'u' => some 4
  | 'U' => some 8
  | _ => none

/-- The character with a code point, unless that is a surrogate or out of range. -/
def scalar? (code : Nat) : Option Char :=
  if code.isValidChar then some (Char.ofNat code) else none

theorem scalar?_toNat (c : Char) : scalar? c.toNat = some c := by
  have hvalid : c.toNat.isValidChar := c.valid
  rw [scalar?, if_pos hvalid, Char.ofNat_toNat]

/-- Where a reader stands inside an escape. -/
inductive Escape where
  /-- After the backslash. -/
  | letter
  /-- Before `left + 1` digits of a code point, with the value of those read. -/
  | code (left value : Nat)
  deriving DecidableEq, Repr

/-- One character of an escape: the character it stands for when it is complete, or
where the reader stands then. -/
def Escape.step : Escape → Char → Option (Char ⊕ Escape)
  | .letter, c =>
    match codeWidth? c with
    | some width => some (.inr (.code (width - 1) 0))
    | none => (escaped? c).map .inl
  | .code left value, c =>
    match Text.hexValue? c with
    | none => none
    | some digit =>
      match left with
      | 0 => (scalar? (value * 16 + digit)).map .inl
      | left + 1 => some (.inr (.code left (value * 16 + digit)))

/-! ## One line -/

/-- Puts a character in front of what a reader gave. -/
def prepend (c : Char) (read : Option (List Char × List Char)) : Option (List Char × List Char) :=
  read.map fun (text, rest) => (c :: text, rest)

/-- Reads a text with escapes up to its closing quote; `state` is the escape that the
reader is in, if any. -/
def basicBody (state : Option Escape) : List Char → Option (List Char × List Char)
  | [] => none
  | c :: rest =>
    match state with
    | some escape =>
      match escape.step c with
      | none => none
      | some (.inl character) => prepend character (basicBody none rest)
      | some (.inr escape') => basicBody (some escape') rest
    | none =>
      if c = '"' then some ([], rest)
      else if c = '\\' then basicBody (some .letter) rest
      else if isPlain c then prepend c (basicBody none rest)
      else none

/-- Reads a text without escapes up to its closing quote. -/
def literalBody : List Char → Option (List Char × List Char)
  | [] => none
  | c :: rest =>
    if c = '\'' then some ([], rest)
    else if isPlain c then prepend c (literalBody rest)
    else none

/-! ## Several lines -/

/-- Where the reader of a text of several lines stands. -/
inductive Place where
  /-- Between characters. -/
  | text
  /-- After a number of quotes in a row. -/
  | quotes (count : Nat)
  /-- After a carriage return, which a line feed has to follow. -/
  | afterReturn
  /-- Inside an escape. -/
  | escape (state : Escape)
  /-- After a backslash and at least one blank, before the line end they announce. -/
  | beforeBreak
  /-- After a carriage return that a backslash announced. -/
  | breakReturn
  /-- After a line end that a backslash took away. -/
  | afterBreak
  /-- After a carriage return behind such a line end. -/
  | afterBreakReturn
  deriving DecidableEq, Repr

/-- The two forms of several lines. -/
structure Style where
  /-- The quote that delimits the text. -/
  quote : Char
  /-- Whether a backslash starts an escape. -/
  escapes : Bool

/-- A character that stands between others: what it adds to the text and where the
reader stands after it. -/
def Style.fromText (style : Style) (c : Char) : Option (List Char × Place) :=
  if c = style.quote then some ([], .quotes 1)
  else if c = '\n' then some (['\n'], .text)
  else if c = '\r' then some ([], .afterReturn)
  else if c = '\\' && style.escapes then some ([], .escape .letter)
  else if isPlain c then some ([c], .text)
  else none

/-- One character of a text of several lines. -/
def Style.step (style : Style) (place : Place) (c : Char) : Option (List Char × Place) :=
  match place with
  | .text => style.fromText c
  | .quotes count =>
    if c = style.quote then some ([], .quotes (count + 1))
    else (style.fromText c).map fun (text, place') => (List.replicate count style.quote ++ text, place')
  | .afterReturn => if c = '\n' then some (['\n'], .text) else none
  | .escape .letter =>
    if isGap c then some ([], .beforeBreak)
    else if c = '\n' then some ([], .afterBreak)
    else if c = '\r' then some ([], .breakReturn)
    else match Escape.letter.step c with
      | none => none
      | some (.inl character) => some ([character], .text)
      | some (.inr state) => some ([], .escape state)
  | .escape state =>
    match state.step c with
    | none => none
    | some (.inl character) => some ([character], .text)
    | some (.inr state') => some ([], .escape state')
  | .beforeBreak =>
    if isGap c then some ([], .beforeBreak)
    else if c = '\n' then some ([], .afterBreak)
    else if c = '\r' then some ([], .breakReturn)
    else none
  | .breakReturn => if c = '\n' then some ([], .afterBreak) else none
  | .afterBreak =>
    if isGap c || c = '\n' then some ([], .afterBreak)
    else if c = '\r' then some ([], .afterBreakReturn)
    else style.fromText c
  | .afterBreakReturn => if c = '\n' then some ([], .afterBreak) else none

/-- The quotes that belong to the text if it ends where the reader stands: three
quotes close it, and one or two more may stand before them. -/
def Style.closing? (style : Style) : Place → Option (List Char)
  | .quotes count =>
    if 3 ≤ count then some (List.replicate (count - 3) style.quote) else none
  | _ => none

/-- Reads a text of several lines up to its closing quotes. The text is over at the
first character that is no quote after three to five of them. -/
def Style.body (style : Style) (place : Place) : List Char → Option (List Char × List Char)
  | [] => (style.closing? place).map fun quotes => (quotes, [])
  | c :: rest =>
    match style.closing? place with
    | some quotes =>
      if c = style.quote then
        if quotes.length < 2 then style.body (.quotes (quotes.length + 4)) rest else none
      else some (quotes, c :: rest)
    | none =>
      match style.step place c with
      | none => none
      | some (text, place') =>
        (style.body place' rest).map fun (more, rest') => (text ++ more, rest')

/-- Several lines with escapes. -/
def multiBasic : Style := ⟨'"', true⟩

/-- Several lines without escapes. -/
def multiLiteral : Style := ⟨'\'', false⟩

/-- Reads a text of several lines after its opening quotes. -/
def Style.read (style : Style) (text : List Char) : Option (List Char × List Char) :=
  style.body .text ((newline? text).getD text)

/-! ## Any form -/

/-- Reads a quoted text of one line. -/
def quotedLine? : Reader (List Char)
  | '"' :: rest => basicBody none rest
  | '\'' :: rest => literalBody rest
  | _ => none

/-- Reads a quoted text of any form. -/
def quoted? : Reader (List Char)
  | '"' :: '"' :: '"' :: rest => multiBasic.read rest
  | '\'' :: '\'' :: '\'' :: rest => multiLiteral.read rest
  | text => quotedLine? text

end Fibonacci.Toml
