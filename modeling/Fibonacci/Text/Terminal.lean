/-
Text for a terminal, and what is left of it elsewhere.

A message is composed with sequences that set the style of its parts. Where it does not
go to a terminal, the sequences are taken out again, and with them everything in the
message that would steer a terminal: sequences in the words of the user, and controls
other than blanks and line ends.

A sequence is opened by the escape character. What follows decides how far it goes: to a
final letter, to a bell, or to a terminator. A new escape character opens a new sequence
in the midst of any other, and two controls end every sequence. A blank or line end in
the midst of a sequence is not part of it and shows; what comes after it shows as well,
up to the next control, and there the broken sequence goes on.
-/

set_option autoImplicit false

namespace Fibonacci.Text

/-! ## Composing -/

/-- The character that opens a sequence. -/
def escapeChar : Char := '\x1b'

/-- A part of a message in a style of its own. -/
def styled (part : String) : String := "\x1b[1m" ++ part ++ "\x1b[0m"

/-! ## Reading sequences -/

/-- Where a text stands with respect to the sequences in it. -/
inductive Steering where
  /-- Outside. -/
  | outside
  /-- After the escape character. -/
  | opened
  /-- After the escape character and signs that announce a final letter. -/
  | announced
  /-- In a control sequence, before its final letter. -/
  | control
  /-- At the start of a device string. -/
  | device
  /-- Among the parameters of a device string. -/
  | deviceParameters
  /-- After the parameters of a device string. -/
  | deviceAnnounced
  /-- In the data of a device string. -/
  | deviceData
  /-- In a string that only a terminator ends. -/
  | message
  /-- In a string that a bell ends. -/
  | command
  deriving DecidableEq, Repr

/-- Whether a code point is in a range, ends included. -/
def between (low high : Nat) (c : Char) : Bool := low ≤ c.toNat && c.toNat ≤ high

/-- Whether the encoding of a character holds the terminator of strings. -/
def holdsTerminator (c : Char) : Bool := (String.utf8EncodeChar c).contains 0x9C

/-- After the escape character: what the next character opens. -/
def Steering.afterEscape (c : Char) : Steering :=
  if c = '[' then .control
  else if c = ']' then .command
  else if c = 'P' then .device
  else if c = 'X' || c = '^' || c = '_' then .message
  else if between 0x20 0x2F c then .announced
  else if between 0x30 0x7E c then .outside
  else .opened

/-- Where a text stands after a character that does not show. -/
def Steering.next (s : Steering) (c : Char) : Steering :=
  if c = escapeChar then .opened
  else if c = '\x18' || c = '\x1a' then .outside
  else match s with
  | .outside => .outside
  | .opened => Steering.afterEscape c
  | .announced => if between 0x30 0x7E c then .outside else .announced
  | .control => if between 0x40 0x7E c then .outside else .control
  | .device =>
    if between 0x20 0x2F c then .deviceAnnounced
    else if between 0x30 0x3F c then .deviceParameters
    else if between 0x40 0x7E c then .deviceData
    else .device
  | .deviceParameters =>
    if between 0x20 0x2F c then .deviceAnnounced
    else if between 0x3C 0x7E c then .deviceData
    else .deviceParameters
  | .deviceAnnounced => if between 0x30 0x7E c then .deviceData else .deviceAnnounced
  | .deviceData => if holdsTerminator c then .outside else .deviceData
  | .message => if holdsTerminator c then .outside else .message
  | .command => if c = '\x07' then .outside else .command

/-! ## What shows -/

/-- The blanks and line ends among the controls. -/
def isLayout (c : Char) : Bool := c == '\t' || c == '\n' || c == '\x0c' || c == '\r'

/-- Whether a character shows outside of sequences. -/
def isVisible (c : Char) : Bool := isLayout c || between 0x20 0x7E c || 0x80 ≤ c.toNat

/-- Whether a character shows where a text stands. -/
def Steering.shows (s : Steering) (c : Char) : Bool :=
  match s with
  | .outside => isVisible c
  | .opened | .announced | .control => isLayout c
  | _ => false

/-- The text that shows, from a given standing; `showing` says whether the character
before showed, after which everything visible does. -/
def plainFrom (s : Steering) (showing : Bool) : List Char → List Char
  | [] => []
  | c :: rest =>
    if showing && isVisible c then
      c :: plainFrom (if 0x80 ≤ c.toNat then .outside else s) true rest
    else if !showing && s.shows c then
      c :: plainFrom s true rest
    else
      plainFrom (s.next c) false rest

/-- The text without what would steer a terminal. -/
def plain (text : String) : String := String.ofList (plainFrom .outside false text.toList)

end Fibonacci.Text
