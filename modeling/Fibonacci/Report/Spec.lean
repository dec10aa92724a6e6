/-
Where a report goes and in which form.

A report is asked for with a short text: `human` or `1` for lines on standard error,
`json` for a JSON object there, `json:` and a path for the object in a file, and `0`
or nothing for no report. Blanks around the text do not count, so a path never ends in
a blank; a blank after the colon is part of the path.
-/
import Fibonacci.Text.Blank

set_option autoImplicit false

namespace Fibonacci.Report

/-- The form of a report. -/
inductive Format where
  /-- Labelled lines. -/
  | human
  /-- One JSON object. -/
  | json
  deriving DecidableEq, Repr

/-- The place a report is written to. -/
inductive Destination where
  /-- Standard error. -/
  | standardError
  /-- The file at a path. -/
  | file (path : String)
  deriving DecidableEq, Repr

/-- A report that was asked for. -/
structure Spec where
  /-- Its form. -/
  format : Format
  /-- Its place. -/
  destination : Destination
  deriving DecidableEq, Repr

namespace Spec

/-- The ways in which a text fails to ask for a report. -/
inductive Fault where
  /-- `json:` with nothing behind it. -/
  | missingPath
  /-- None of the known forms. -/
  | unknown (text : List Char)
  deriving DecidableEq, Repr

/-- The text shown to the user. -/
def Fault.message : Fault → String
  | .missingPath => "Report spec 'json:' is missing a file path"
  | .unknown text =>
    "Unknown report spec '" ++ String.ofList text ++ "' (expected human, json, or json:/path)"

/-- What stands before a path. -/
def fileMark : List Char := "json:".toList

/-- Labelled lines on standard error. -/
def humanOnError : Spec := ⟨.human, .standardError⟩

/-- A JSON object on standard error. -/
def jsonOnError : Spec := ⟨.json, .standardError⟩

/-- A JSON object in a file. -/
def jsonInFile (path : List Char) : Spec := ⟨.json, .file (String.ofList path)⟩

/-- Reads a text that has no blanks around it; no report is `none`. -/
def ofTrimmed (text : List Char) : Except Fault (Option Spec) :=
  if text = [] ∨ text = ['0'] then .ok none
  else if text = ['1'] ∨ text = "human".toList then .ok (some humanOnError)
  else if text = "json".toList then .ok (some jsonOnError)
  else if fileMark.isPrefixOf text then
    match text.drop fileMark.length with
    | [] => .error .missingPath
    | path => .ok (some (jsonInFile path))
  else .error (.unknown text)

/-- Reads a text that asks for a report. -/
def parse (text : String) : Except Fault (Option Spec) := ofTrimmed (Text.trim text.toList)

/-- The canonical text that asks for a report. -/
def print : Option Spec → String
  | none => "0"
  | some ⟨.human, _⟩ => "human"
  | some ⟨.json, .standardError⟩ => "json"
  | some ⟨.json, .file path⟩ => "json:" ++ path

end Spec
end Fibonacci.Report
