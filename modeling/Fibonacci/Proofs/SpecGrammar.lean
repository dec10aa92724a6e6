/-
The texts that ask for a report, and what they ask for.

Without the blanks around it, a text is one of five words or `json:` with a path behind
it. `Asks` lists these texts with their answers, and reading follows the list in both
directions (`ofTrimmed_eq_ok_iff`). The list can be read backwards too. Behind the mark
everything up to the end of the text is the path, blanks and colons included; but the text
has been trimmed, so the path does not end in a blank, and a path of blanks alone has gone
with them. What is left are the answers of `Offered`, and `print` gives for each of them a
text that asks for it.

Behind the mark the text is cut after five bytes. The five characters of the mark have one
byte each, so the place is always there and never inside a character.
-/
import Fibonacci.Proofs.Trimming
import Fibonacci.Report.Spec
import Fibonacci.Text.Bytes

set_option autoImplicit false

namespace Fibonacci.Report.Spec

/-! ## The list of texts -/

/-- A text without blanks around it asks for a report, or for none. -/
inductive Asks : List Char → Option Spec → Prop
  | nothing : Asks [] none
  | zero : Asks ['0'] none
  | one : Asks ['1'] (some ⟨.human, .standardError⟩)
  | human : Asks "human".toList (some ⟨.human, .standardError⟩)
  | json : Asks "json".toList (some ⟨.json, .standardError⟩)
  | file {path : List Char} (given : path ≠ []) :
      Asks ("json:".toList ++ path) (some ⟨.json, .file (String.ofList path)⟩)

theorem ofTrimmed_file {path : List Char} (given : path ≠ []) :
    ofTrimmed (fileMark ++ path) = .ok (some (jsonInFile path)) := by
  obtain ⟨first, more, rfl⟩ := List.exists_cons_of_ne_nil given
  rfl

/-- Reading a trimmed text gives what the list says, and nothing where it says nothing. -/
theorem ofTrimmed_eq_ok_iff {text : List Char} {answer : Option Spec} :
    ofTrimmed text = .ok answer ↔ Asks text answer := by
  constructor
  · intro h
    unfold ofTrimmed at h
    split at h
    · rename_i hoff
      cases h
      rcases hoff with rfl | rfl
      · exact .nothing
      · exact .zero
    · split at h
      · rename_i hhuman
        cases h
        rcases hhuman with rfl | rfl
        · exact .one
        · exact .human
      · split at h
        · rename_i hjson
          cases h
          rw [hjson]
          exact .json
        · split at h
          · rename_i hmark
            obtain ⟨path, rfl⟩ := List.isPrefixOf_iff_prefix.mp hmark
            rw [List.drop_left] at h
            rcases path with _ | ⟨first, more⟩
            · cases h
            · cases h
              exact .file (List.cons_ne_nil first more)
          · cases h
  · intro h
    rcases h with _ | _ | _ | _ | _ | given
    · rfl
    · rfl
    · rfl
    · rfl
    · rfl
    · exact ofTrimmed_file given

theorem parse_eq_ok_iff {text : String} {answer : Option Spec} :
    parse text = .ok answer ↔ Asks (Text.trim text.toList) answer :=
  ofTrimmed_eq_ok_iff

/-- The texts on the list, without their answers. -/
theorem exists_asks_iff {text : List Char} :
    (∃ answer, Asks text answer)
      ↔ text = [] ∨ text = "0".toList ∨ text = "1".toList ∨ text = "human".toList
        ∨ text = "json".toList ∨ ∃ path, path ≠ [] ∧ text = "json:".toList ++ path := by
  constructor
  · rintro ⟨answer, h⟩
    rcases h with _ | _ | _ | _ | _ | given
    · exact .inl rfl
    · exact .inr (.inl rfl)
    · exact .inr (.inr (.inl rfl))
    · exact .inr (.inr (.inr (.inl rfl)))
    · exact .inr (.inr (.inr (.inr (.inl rfl))))
    · exact .inr (.inr (.inr (.inr (.inr ⟨_, given, rfl⟩))))
  · rintro (rfl | rfl | rfl | rfl | rfl | ⟨path, given, rfl⟩)
    · exact ⟨_, .nothing⟩
    · exact ⟨_, .zero⟩
    · exact ⟨_, .one⟩
    · exact ⟨_, .human⟩
    · exact ⟨_, .json⟩
    · exact ⟨_, .file given⟩

/-! ## The answers -/

/-- The answers that there are: none, either form on standard error, and JSON in a file
whose path is not empty and does not end in a blank. -/
inductive Offered : Option Spec → Prop
  | off : Offered none
  | human : Offered (some ⟨.human, .standardError⟩)
  | json : Offered (some ⟨.json, .standardError⟩)
  | file {path : String} (given : path ≠ "")
      (closed : ∀ c ∈ path.toList.getLast?, Text.isBlank c = false) :
      Offered (some ⟨.json, .file path⟩)

/-- The answer to a trimmed text is one of them. The end of a path is the end of the
text. -/
theorem Asks.offered {text : List Char} {answer : Option Spec} (h : Asks text answer)
    (closed : Text.StartsVisible text.reverse) : Offered answer := by
  rcases h with _ | _ | _ | _ | _ | @⟨path, given⟩
  · exact .off
  · exact .off
  · exact .human
  · exact .human
  · exact .json
  · refine .file ?_ ?_
    · rw [Ne, ← String.toList_inj, String.toList_ofList]
      exact given
    · intro c hc
      rw [String.toList_ofList] at hc
      apply closed c
      rw [List.head?_reverse, List.getLast?_append, Option.mem_def.mp hc]
      rfl

theorem toList_print_file (path : String) :
    (print (some ⟨.json, .file path⟩)).toList = "json:".toList ++ path.toList :=
  String.toList_append

/-- Nothing is trimmed off a printed answer: it starts with a letter or a digit, and ends
with one or as a path does. -/
theorem trim_print {answer : Option Spec} (h : Offered answer) :
    Text.trim (print answer).toList = (print answer).toList := by
  rcases h with _ | _ | _ | @⟨path, given, closed⟩
  · decide
  · decide
  · decide
  · rw [toList_print_file]
    apply Text.trim_of_strips
    refine ⟨⟨[], [], ?_, nofun, nofun⟩, ?_, ?_⟩
    · rw [List.nil_append, List.append_nil]
    · intro c hc
      obtain rfl := Option.some.inj hc
      decide
    · intro c hc
      have hlast := List.getLast?_eq_some_getLast (mt String.toList_eq_nil_iff.mp given)
      rw [List.head?_reverse, List.getLast?_append, hlast] at hc
      rw [hlast] at closed
      exact closed c hc

theorem asks_print {answer : Option Spec} (h : Offered answer) :
    Asks (print answer).toList answer := by
  rcases h with _ | _ | _ | @⟨path, given, closed⟩
  · exact .zero
  · exact .human
  · exact .json
  · have hfile := Asks.file (mt String.toList_eq_nil_iff.mp given)
    rw [String.ofList_toList] at hfile
    rw [toList_print_file]
    exact hfile

theorem parse_print {answer : Option Spec} (h : Offered answer) :
    parse (print answer) = .ok answer := by
  rw [parse_eq_ok_iff, trim_print h]
  exact asks_print h

/-! ## The cut behind the mark -/

/-- Five bytes are there to be cut off, and what they leave are the characters behind the
mark. -/
theorem dropBytes_of_fileMark {text : List Char} (h : fileMark.isPrefixOf text = true) :
    5 ≤ Text.byteCount text ∧ Text.dropBytes 5 text = some (text.drop fileMark.length) := by
  obtain ⟨path, rfl⟩ := List.isPrefixOf_iff_prefix.mp h
  have hmark : Text.byteCount fileMark = 5 := by decide
  refine ⟨?_, ?_⟩
  · rw [Text.byteCount_append, hmark]
    omega
  · rw [← hmark, Text.dropBytes_append, List.drop_left]

/-! ## Main statement -/

/-- For every text. It is accepted exactly if, trimmed, it is empty, one of four words, or
`json:` with something behind it, and then what is behind the mark is the path, as it
stands; the other answers are those of the list. Every answer is one of those offered, so
only JSON goes to a file; every answer offered is read back from its printed form, and so
printing an answer and reading it again changes nothing. Where the text starts with the
mark, the place after its five bytes is in the text and between two characters. -/
theorem parse_accepts_grammar_and_inverts_print (text : String) :
    ((∃ answer, parse text = .ok answer)
      ↔ Text.trim text.toList = [] ∨ Text.trim text.toList = "0".toList
        ∨ Text.trim text.toList = "1".toList ∨ Text.trim text.toList = "human".toList
        ∨ Text.trim text.toList = "json".toList
        ∨ ∃ path, path ≠ [] ∧ Text.trim text.toList = "json:".toList ++ path)
    ∧ (∀ path, path ≠ [] → Text.trim text.toList = "json:".toList ++ path →
        parse text = .ok (some ⟨.json, .file (String.ofList path)⟩))
    ∧ (∀ answer, parse text = .ok answer ↔ Asks (Text.trim text.toList) answer)
    ∧ (∀ answer, parse text = .ok answer → Offered answer)
    ∧ (∀ answer, Offered answer → parse (print answer) = .ok answer)
    ∧ (∀ answer, parse text = .ok answer → parse (print answer) = parse text)
    ∧ (fileMark.isPrefixOf (Text.trim text.toList) = true →
        5 ≤ Text.byteCount (Text.trim text.toList)
        ∧ Text.dropBytes 5 (Text.trim text.toList)
          = some ((Text.trim text.toList).drop fileMark.length)) := by
  have hoffered : ∀ answer, parse text = .ok answer → Offered answer := by
    intro answer h
    exact (parse_eq_ok_iff.mp h).offered (Text.strips_trim text.toList).stop
  refine ⟨?_, ?_, fun _ => parse_eq_ok_iff, hoffered, fun _ => parse_print, ?_,
    dropBytes_of_fileMark⟩
  · rw [← exists_asks_iff]
    exact exists_congr fun _ => parse_eq_ok_iff
  · intro path given htrim
    rw [parse_eq_ok_iff, htrim]
    exact .file given
  · intro answer h
    rw [h]
    exact parse_print (hoffered answer h)

/-- A path that starts with a blank and has a colon and a wide character in it, in a text
with blanks of two kinds at its ends; and a path of blanks only, which is none. -/
theorem parse_path_with_blanks :
    parse "\u3000json: a:é \t" = .ok (some ⟨.json, .file " a:é"⟩)
    ∧ parse (print (some ⟨.json, .file " a:é"⟩)) = parse "\u3000json: a:é \t"
    ∧ Text.dropBytes 5 (Text.trim "\u3000json: a:é \t".toList) = some " a:é".toList
    ∧ ¬ ∃ answer, parse "json: \u3000" = .ok answer := by
  obtain ⟨-, hfile, -, -, -, hprint, hcut⟩ :=
    parse_accepts_grammar_and_inverts_print "\u3000json: a:é \t"
  have hparse := hfile " a:é".toList (by decide) (by decide)
  rw [String.ofList_toList] at hparse
  refine ⟨hparse, hprint _ hparse, (hcut (by decide)).2, ?_⟩
  rw [(parse_accepts_grammar_and_inverts_print "json: \u3000").1]
  have htrim : Text.trim "json: \u3000".toList = "json:".toList := by decide
  rw [htrim]
  rintro (h | h | h | h | h | ⟨path, given, h⟩)
  · exact absurd h (by decide)
  · exact absurd h (by decide)
  · exact absurd h (by decide)
  · exact absurd h (by decide)
  · exact absurd h (by decide)
  · exact given (List.self_eq_append_right.mp h)

end Fibonacci.Report.Spec
