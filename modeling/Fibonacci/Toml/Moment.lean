/-
Dates and times.

A date is a year of four digits, a month and a day that the month has; a time is an
hour, a minute and a second, with a fraction if wanted. A date can stand alone, a time
can stand alone, and a date can be followed by a time, with an offset behind it. No
setting of the program is a date, so what matters is where one ends and whether it is
a date at all.
-/
import Fibonacci.Text.Numeral
import Fibonacci.Toml.Reader

set_option autoImplicit false

namespace Fibonacci.Toml.Moment

/-- Reads a number of exactly `width` digits. -/
def number? (width : Nat) (text : List Char) : Option (Nat × List Char) :=
  let digits := text.take width
  if digits.length = width && digits.all Text.isDigit then
    some (Text.valueOf digits, text.drop width)
  else none

/-- Reads a number of two digits in a range. -/
def pair? (least most : Nat) (text : List Char) : Option (Nat × List Char) :=
  match number? 2 text with
  | some (value, rest) => if least ≤ value && value ≤ most then some (value, rest) else none
  | none => none

/-- Reads one given character. -/
def mark? (c : Char) : List Char → Option (List Char)
  | d :: rest => if d = c then some rest else none
  | [] => none

/-- Whether a year has a day more in February. -/
def isLeap (year : Nat) : Bool := year % 4 == 0 && (year % 100 != 0 || year % 400 == 0)

/-- The number of days in a month. -/
def daysIn (year month : Nat) : Nat :=
  if month = 2 then (if isLeap year then 29 else 28)
  else if month = 4 || month = 6 || month = 9 || month = 11 then 30
  else 31

/-- Reads past a date. -/
def date? (text : List Char) : Option (List Char) := do
  let (year, text) ← number? 4 text
  let text ← mark? '-' text
  let (month, text) ← pair? 1 12 text
  let text ← mark? '-' text
  let (_, text) ← pair? 1 (daysIn year month) text
  return text

/-- Reads past the fraction of a second, if there is one. -/
def fraction? : List Char → Option (List Char)
  | '.' :: rest =>
    if (rest.takeWhile Text.isDigit).isEmpty then none else some (rest.dropWhile Text.isDigit)
  | text => some text

/-- Reads past a time; a minute can have a leap second. -/
def time? (text : List Char) : Option (List Char) := do
  let (_, text) ← pair? 0 23 text
  let text ← mark? ':' text
  let (_, text) ← pair? 0 59 text
  let text ← mark? ':' text
  let (_, text) ← pair? 0 60 text
  fraction? text

/-- Reads past the distance from universal time. -/
def offset? : List Char → Option (List Char)
  | 'Z' :: rest => some rest
  | 'z' :: rest => some rest
  | sign :: rest =>
    if sign = '+' || sign = '-' then do
      let (_, text) ← pair? 0 23 rest
      let text ← mark? ':' text
      let (_, text) ← pair? 0 59 text
      return text
    else none
  | [] => none

/-- Reads past the time that may follow a date. -/
def timeOfDay? : List Char → Option (List Char)
  | divider :: rest =>
    if divider = 'T' || divider = 't' || divider = ' ' then
      (time? rest).map fun text => (offset? text).getD text
    else none
  | [] => none

/-- Reads past a date, a time, or both. -/
def skip? (text : List Char) : Option (List Char) :=
  match date? text with
  | some rest => some ((timeOfDay? rest).getD rest)
  | none => time? text

end Fibonacci.Toml.Moment
