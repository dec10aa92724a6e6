/-
Where a report goes, character by character.

On standard error the blanks at the end of a report give way to one line end. For lines
this is the line end that was there, and for JSON, whose last character is a brace, it is
one that was not; nothing that a report says is ever lost. A JSON report has no character
below `U+0020`, as everything in it that could be one is escaped text, so the line end
behind it is its only one.

A file gets the text as it is. At a regular place the text replaces what was there and the
rest of the tree stays (`Filed`), and only opening the place can fail there.

A report that is refused leaves the world as it was, on standard error as in a file. The
message gives the cause, and for a file the path.
-/
import Fibonacci.Proofs.Course
import Fibonacci.Proofs.Files
import Fibonacci.Proofs.ReportText

set_option autoImplicit false

namespace Fibonacci

/-! ## A JSON report has no control characters -/

/-- A text without the characters below `U+0020`. -/
def Text.NoControls (text : List Char) : Prop := ∀ c ∈ text, 0x20 ≤ c.toNat

namespace Report.Json

open Text (NoControls)

theorem noControls_append {front back : List Char} (hfront : NoControls front)
    (hback : NoControls back) : NoControls (front ++ back) :=
  List.forall_mem_append.mpr ⟨hfront, hback⟩

theorem noControls_singleton {c : Char} (h : 0x20 ≤ c.toNat) : NoControls [c] := by
  intro d hd
  rw [List.mem_singleton.mp hd]
  exact h

theorem noControls_cons {c : Char} {text : List Char} (h : 0x20 ≤ c.toNat)
    (htext : NoControls text) : NoControls (c :: text) :=
  noControls_append (noControls_singleton h) htext

theorem le_toNat_of_isDigit {c : Char} (h : Text.isDigit c = true) : 0x20 ≤ c.toNat := by
  have hzero : '0'.toNat = 48 := rfl
  have hrange := of_decide_eq_true h
  omega

theorem noControls_digits (n : ℕ) : NoControls (Text.digits n) := by
  intro c hc
  exact le_toNat_of_isDigit (Text.isDigit_of_mem_digits hc)

theorem noControls_number (x : Binary64) : NoControls (number x) := by
  have hmarks : ∀ c ∈ "-+.enul".toList, 0x20 ≤ c.toNat := by simp
  intro c hc
  rcases mem_number hc with hc | hc
  · exact le_toNat_of_isDigit hc
  · exact hmarks c hc

theorem le_toNat_hexChar (n : ℕ) : 0x20 ≤ (Text.hexChar n).toNat := by
  have hall : ∀ d : Fin 16, 0x20 ≤ (Text.hexChar d).toNat := by decide
  have hchar : Text.hexChar n = Text.hexChar (n % 16) := by simp [Text.hexChar]
  rw [hchar]
  exact hall ⟨n % 16, Nat.mod_lt _ (by decide)⟩

theorem noControls_hexPadded (width n : ℕ) : NoControls (Text.hexPadded width n) := by
  induction width generalizing n with
  | zero => nofun
  | succ width ih =>
    exact noControls_append (ih (n / 16)) (noControls_singleton (le_toNat_hexChar n))

/-- The letters after a backslash. -/
theorem le_toNat_of_escapeLetter? {c letter : Char} (h : escapeLetter? c = some letter) :
    0x20 ≤ letter.toNat := by
  unfold escapeLetter? at h
  split at h <;> cases h <;> decide

/-- A character is escaped to visible ones, or is one itself. -/
theorem noControls_escapeChar (c : Char) : NoControls (escapeChar c) := by
  unfold escapeChar
  split
  · rename_i letter hletter
    exact noControls_cons (by decide)
      (noControls_singleton (le_toNat_of_escapeLetter? hletter))
  · split
    · exact noControls_cons (by decide)
        (noControls_cons (by decide) (noControls_hexPadded 4 c.toNat))
    · rename_i hvisible
      exact noControls_singleton (Nat.le_of_not_lt hvisible)

theorem noControls_quote (text : List Char) : NoControls (quote text) := by
  have hescape : NoControls (escape text) := by
    intro d hd
    obtain ⟨c, -, hd⟩ := List.mem_flatMap.mp hd
    exact noControls_escapeChar c d hd
  exact noControls_cons (by decide)
    (noControls_append hescape (noControls_singleton (by decide)))

theorem noControls_intercalate {texts : List (List Char)} (h : ∀ text ∈ texts, NoControls text) :
    NoControls (List.intercalate [','] texts) := by
  induction texts with
  | nil => nofun
  | cons text texts ih =>
    obtain ⟨htext, htexts⟩ := List.forall_mem_cons.mp h
    rcases texts with _ | ⟨next, more⟩
    · rw [List.intercalate_singleton]
      exact htext
    · rw [List.intercalate_cons_cons]
      exact noControls_append (noControls_append htext (noControls_singleton (by decide)))
        (ih htexts)

/-- The value of every member is a number, a quoted text or `null`. -/
theorem noControls_of_mem_members {r : Report} {entry : List Char × List Char}
    (h : entry ∈ members r) : NoControls entry.2 := by
  rcases List.mem_append.mp h with h | h
  · rcases List.mem_append.mp h with h | h
    · simp only [List.mem_cons, List.not_mem_nil, or_false] at h
      rcases h with rfl | rfl | rfl
      · exact noControls_digits _
      · exact noControls_digits _
      · exact noControls_quote _
    · rw [Option.mem_toList, Option.map_eq_some_iff] at h
      obtain ⟨calls, -, rfl⟩ := h
      exact noControls_digits _
  · rw [List.mem_singleton.mp h]
    exact noControls_number _

theorem noControls_text (r : Report) : NoControls (text r) := by
  have hmembers : NoControls (List.intercalate [','] ((members r).map member)) := by
    apply noControls_intercalate
    intro text htext
    obtain ⟨entry, hentry, rfl⟩ := List.mem_map.mp htext
    exact noControls_append (noControls_quote entry.1)
      (noControls_cons (by decide) (noControls_of_mem_members hentry))
  exact noControls_append (noControls_cons (by decide) hmembers)
    (noControls_singleton (by decide))

end Report.Json

namespace Program

/-! ## A report in a file -/

/-- The world `left` is `w` with a text written along a path, at a place. -/
structure Filed (w left : World) (path text : String) (place : Location) : Prop where
  named : w.files.Names path place
  effects : left.effects = w.effects ++ [.wrote path text]
  /-- A regular file holds the text, as bytes and, if it can be opened, read along the path. -/
  content : w.files.Regular place → left.files.lookup place = some (.file text.toUTF8)
    ∧ (w.files.unreadable.lookup place = none → left.files.readText path = .ok text)
  /-- A device changes nothing. -/
  device : ¬ w.files.Regular place → left.files = w.files
  elsewhere : ∀ other, other ≠ place → left.files.lookup other = w.files.lookup other

theorem filed_of_writeText {w : World} {path text : String} {files : FileTree}
    (h : w.files.writeText path text = .ok files) :
    ∃ place, Filed w { w.after [.wrote path text] with files := files } path text place := by
  obtain ⟨place, named, -⟩ := FileTree.writeText_cases h
  refine ⟨place, named, rfl, ?_, ?_, ?_⟩
  · intro regular
    obtain rfl := FileTree.eq_insert_of_writeText named regular h
    exact ⟨FileTree.lookup_insert_self _ named.ne_nil _,
      fun readable => FileTree.readText_insert named regular readable text⟩
  · intro device
    exact FileTree.eq_of_writeText_of_not_regular named device h
  · intro other hother
    exact FileTree.lookup_writeText_of_not_names h fun hnames => hother (hnames.unique named)

/-- A report for a file is written, or the world stays as it is; at a regular place only
because that cannot be opened. -/
theorem exec_emit_filed (format : Report.Format) (path : String) (r : Report) (w : World) :
    (∃ place left, exec (emit ⟨format, .file path⟩ r) w = (.ok (), left)
      ∧ Filed w left path (r.render format) place)
    ∨ ∃ cause, exec (emit ⟨format, .file path⟩ r) w = (.error (.report (.file path) cause), w)
      ∧ w.files.writeText path (r.render format) = .error cause
      ∧ ∀ place, w.files.Names path place → w.files.Regular place →
        w.files.unwritable.lookup place = some cause := by
  rcases hwrite : w.files.writeText path (r.render format) with cause | files
  · refine .inr ⟨cause, exec_emit_of_refuses (.inFile hwrite), rfl, ?_⟩
    intro place named regular
    exact FileTree.lookup_unwritable_of_refused named regular hwrite
  · obtain ⟨place, filed⟩ := filed_of_writeText hwrite
    exact .inl ⟨place, _, exec_emit_in_file hwrite, filed⟩

/-! ## A report on standard error -/

/-- The report as standard error gets it: lines as they are, JSON with one line end more. -/
def lineOf (r : Report) : Report.Format → String
  | .human => r.render .human
  | .json => r.render .json ++ "\n"

theorem renderLine_eq (r : Report) (format : Report.Format) :
    r.renderLine format = lineOf r format := by
  rcases format with _ | _
  · exact r.renderLine_human
  · exact r.renderLine_json

/-! ## Main statement -/

/-- For every report, every way to ask for it and every world. On standard error a report
is its text, with one line end more if it is JSON: of lines, trimming takes nothing but the
last line end, and of JSON nothing. JSON has no control character, so there it is one line.
In a file a report replaces what a regular file held, and no other file changes. Otherwise
the report is refused: nothing changes, and the message gives the cause, with the path if it
was for a file. At a regular place the cause is that it cannot be opened. -/
theorem emit_writes_exactly_the_report (spec : Report.Spec) (r : Report) (w : World) :
    (spec.destination = .standardError →
      exec (emit spec r) w = (.ok (), w.after [.diagnosed (.text (lineOf r spec.format))])
      ∨ ∃ failure cause, exec (emit spec r) w = (.error failure, w)
        ∧ w.errorRefuses (lineOf r spec.format) = some cause
        ∧ ∀ libraries, failure.message libraries = "Failed to write report: " ++ cause.message)
    ∧ Text.trimEnd (r.render .human).toList ++ ['\n'] = (r.render .human).toList
    ∧ Text.trimEnd (r.render .json).toList = (r.render .json).toList
    ∧ (∀ c ∈ (r.render .json).toList, 0x20 ≤ c.toNat)
    ∧ Text.splitAt '\n' (r.render .json ++ "\n").toList = [(r.render .json).toList, []]
    ∧ ∀ path, spec.destination = .file path →
      (∃ place left, exec (emit spec r) w = (.ok (), left)
        ∧ Filed w left path (r.render spec.format) place)
      ∨ ∃ failure cause, exec (emit spec r) w = (.error failure, w)
        ∧ w.files.writeText path (r.render spec.format) = .error cause
        ∧ (∀ libraries, failure.message libraries
          = "Failed to write report to " ++ path ++ ": " ++ cause.message)
        ∧ ∀ place, w.files.Names path place → w.files.Regular place →
          w.files.unwritable.lookup place = some cause := by
  obtain ⟨format, destination⟩ := spec
  have htext : ∀ form, (r.render form).toList = r.renderChars form :=
    fun _ => String.toList_ofList
  have hcontrols : ∀ c ∈ (r.render .json).toList, 0x20 ≤ c.toNat := by
    rw [htext]
    exact Report.Json.noControls_text r
  refine ⟨?_, ?_, ?_, hcontrols, ?_, ?_⟩
  · rintro rfl
    rw [← renderLine_eq]
    rcases hrefused : w.errorRefuses (r.renderLine format) with _ | cause
    · exact .inl (exec_emit_on_error hrefused)
    · exact .inr ⟨_, cause, exec_emit_of_refuses (.onError hrefused), rfl, fun _ => rfl⟩
  · rw [htext]
    exact r.trimEnd_human
  · rw [htext]
    exact r.trimEnd_json
  · have hline : '\n' ∉ (r.render .json).toList := fun h => absurd (hcontrols _ h) (by decide)
    rw [String.toList_append]
    exact Text.splitAt_append_cons hline []
  · rintro path rfl
    rcases exec_emit_filed format path r w with hfiled | ⟨cause, hexec, hwrite, hregular⟩
    · exact .inl hfiled
    · exact .inr ⟨_, cause, hexec, hwrite, fun _ => rfl, hregular⟩

/-- Over an older file, the report is all that the file holds afterwards. -/
theorem emit_over_an_older_file :
    ∃ w left : World, w.files.readText "r.json" = .ok "old"
      ∧ exec (emit ⟨.json, .file "r.json"⟩ ⟨10, 55, "naive", some 177, ⟨0⟩⟩) w = (.ok (), left)
      ∧ left.files.readText "r.json"
        = .ok ((⟨10, 55, "naive", some 177, ⟨0⟩⟩ : Report).render .json) := by
  let place : Location := ["work", "r.json"]
  let older : FileTree := FileTree.fresh.insert place (.file "old".toUTF8)
  have hparse : Path.parse "r.json" = .ok ⟨false, ["r.json"], false⟩ := by decide +kernel
  have hfresh : FileTree.fresh.Names "r.json" place := ⟨_, hparse, by decide +kernel⟩
  have holder : older.Names "r.json" place := ⟨_, hparse, by decide +kernel⟩
  have regular : older.Regular place := .inr ⟨_, FileTree.lookup_insert_self _ hfresh.ne_nil _⟩
  have hold : older.readText "r.json" = .ok "old" :=
    FileTree.readText_insert hfresh (.inl (by decide +kernel)) rfl "old"
  obtain ⟨-, -, -, -, -, hfile⟩ := emit_writes_exactly_the_report ⟨.json, .file "r.json"⟩
    ⟨10, 55, "naive", some 177, ⟨0⟩⟩ { files := older }
  rcases hfile _ rfl with ⟨found, left, hexec, filed⟩ | ⟨_, _, -, -, -, hrefused⟩
  · obtain rfl := filed.named.unique holder
    have hread := (filed.content regular).2 rfl
    dsimp only at hread
    exact ⟨{ files := older }, left, hold, hexec, hread⟩
  · have hlisted := hrefused _ holder regular
    cases hlisted

end Program
end Fibonacci
