/-
Labelled lines read back.

A report as lines is meant for people, but nothing of it is lost: a reader that cuts the
text at its line ends and takes the labels off finds the index, the value, the name of the
algorithm and the calls again, whatever the time is (`readItems_text`). Which line is which
is told by its place: four come first and the time comes last, so a name that looks like
another line is still the name, and whether calls were counted is seen from the number of
lines.

That the text is cut where its lines end, and nowhere else, needs that no line has a line
end inside. The numerals and the time have none for any number; the name of an algorithm
is free text, and there it is asked for.
-/
import Fibonacci.Proofs.ReportText
import Fibonacci.Text.Split

set_option autoImplicit false

namespace Fibonacci.Report.Human

/-! ## A reader -/

/-- What the lines of a report say. -/
structure Items where
  index : ℕ
  value : ℕ
  algorithm : List Char
  calls : Option ℕ
  /-- The time and its unit, as they are written. -/
  time : List Char
  deriving DecidableEq, Repr

/-- What stands behind a label. -/
def behind? (label line : List Char) : Option (List Char) :=
  if label.isPrefixOf line then some (line.drop label.length) else none

/-- The number behind a label. -/
def numberBehind? (label line : List Char) : Option ℕ :=
  (behind? label line).bind fun text =>
    if Text.isNumeral text then some (Text.valueOf text) else none

/-- Reads what comes after the algorithm: the calls if there is a line for them, and the
time. -/
def ending? : List (List Char) → Option (Option ℕ × List Char)
  | [elapsed] => do
    let time ← behind? "  elapsed:    ".toList elapsed
    return (none, time)
  | [calls, elapsed] => do
    let count ← numberBehind? "  calls:      ".toList calls
    let time ← behind? "  elapsed:    ".toList elapsed
    return (some count, time)
  | _ => none

/-- Reads the lines of a report. -/
def itemsOf? : List (List Char) → Option Items
  | title :: n :: value :: algorithm :: rest => do
    guard (title = "=== fib report ===".toList)
    let index ← numberBehind? "  n:          ".toList n
    let value ← numberBehind? "  value:      ".toList value
    let algorithm ← behind? "  algorithm:  ".toList algorithm
    let (calls, time) ← ending? rest
    return ⟨index, value, algorithm, calls, time⟩
  | _ => none

/-- Reads a report: the text is cut at its line ends, and nothing stands behind the last. -/
def readItems (text : List Char) : Option Items :=
  if (Text.splitAt '\n' text).getLast? = some [] then
    itemsOf? (Text.splitAt '\n' text).dropLast
  else none

/-! ## Labels -/

theorem behind?_append (label rest : List Char) : behind? label (label ++ rest) = some rest := by
  have hlabel : label.isPrefixOf (label ++ rest) = true :=
    List.isPrefixOf_iff_prefix.mpr (List.prefix_append label rest)
  rw [behind?, if_pos hlabel, List.drop_left]

theorem numberBehind?_append (label : List Char) (n : ℕ) :
    numberBehind? label (label ++ Text.digits n) = some n := by
  rw [numberBehind?, behind?_append, Option.bind_some, if_pos (Text.isNumeral_digits n),
    Text.valueOf_digits]

/-! ## Lines -/

theorem newline_notMem_duration (x : Binary64) : '\n' ∉ duration x := by
  intro h
  rcases List.mem_append.mp h with h | h
  · rcases mem_fixed h with h | h
    · exact absurd h (by decide)
    · exact absurd h (by decide)
  · exact absurd h (by decide)

theorem newline_notMem_append {label text : List Char} (hlabel : '\n' ∉ label)
    (htext : '\n' ∉ text) : '\n' ∉ label ++ text := by
  rw [List.mem_append, not_or]
  exact ⟨hlabel, htext⟩

/-- No line has a line end inside, if the name of the algorithm has none. -/
theorem newline_notMem_lines {r : Report} (h : '\n' ∉ r.algorithm.toList) :
    ∀ line ∈ lines r, '\n' ∉ line := by
  have hdigits : ∀ n, '\n' ∉ Text.digits n := Text.not_mem_digits (by decide)
  intro line hline
  rcases List.mem_append.mp hline with hline | hline
  · rcases List.mem_append.mp hline with hline | hline
    · simp only [List.mem_cons, List.not_mem_nil, or_false] at hline
      rcases hline with rfl | rfl | rfl | rfl
      · decide
      · exact newline_notMem_append (by decide) (hdigits _)
      · exact newline_notMem_append (by decide) (hdigits _)
      · exact newline_notMem_append (by decide) h
    · rw [Option.mem_toList, Option.map_eq_some_iff] at hline
      obtain ⟨calls, -, rfl⟩ := hline
      exact newline_notMem_append (by decide) (hdigits _)
  · rw [List.mem_singleton.mp hline]
    exact newline_notMem_append (by decide) (newline_notMem_duration _)

/-- The text is cut into its lines. -/
theorem splitAt_text {r : Report} (h : '\n' ∉ r.algorithm.toList) :
    Text.splitAt '\n' (text r) = lines r ++ [[]] :=
  Text.splitAt_flatMap (newline_notMem_lines h)

/-! ## Reading back -/

/-- The items of a report, as numbers and texts. -/
def itemsOf (r : Report) : Items :=
  ⟨r.index.toNat, r.value.toNat, r.algorithm.toList, r.calls.map (·.toNat), duration r.elapsed⟩

/-- The line for the calls is there where there are calls, and one line always follows. -/
theorem ending?_lines (r : Report) :
    ending? ((r.calls.map fun calls => "  calls:      ".toList ++ Text.digits calls.toNat).toList
        ++ ["  elapsed:    ".toList ++ duration r.elapsed])
      = some (r.calls.map (·.toNat), duration r.elapsed) := by
  rcases r.calls with _ | calls
  · simp only [Option.map_none, Option.toList_none, List.nil_append, ending?, behind?_append]
    rfl
  · simp only [Option.map_some, Option.toList_some, List.singleton_append, ending?,
      numberBehind?_append, behind?_append]
    rfl

theorem itemsOf?_lines (r : Report) : itemsOf? (lines r) = some (itemsOf r) := by
  rw [lines, List.append_assoc]
  simp only [List.cons_append, List.nil_append, itemsOf?, numberBehind?_append, behind?_append,
    ending?_lines]
  rfl

theorem readItems_text {r : Report} (h : '\n' ∉ r.algorithm.toList) :
    readItems (text r) = some (itemsOf r) := by
  rw [readItems, splitAt_text h, List.getLast?_concat, if_pos rfl, List.dropLast_concat,
    itemsOf?_lines]

/-- The items tell everything in a report but the time. -/
theorem of_itemsOf_eq {r other : Report} (h : itemsOf other = itemsOf r) :
    other.index = r.index ∧ other.value = r.value ∧ other.algorithm = r.algorithm
      ∧ other.calls = r.calls := by
  obtain ⟨hindex, hvalue, halgorithm, hcalls, -⟩ := Items.mk.inj h
  refine ⟨UInt32.toNat_inj.mp hindex, UInt64.toNat_inj.mp hvalue,
    String.toList_inj.mp halgorithm, ?_⟩
  exact Option.map_injective (fun _ _ => UInt64.toNat_inj.mp) hcalls

/-! ## Main statement -/

/-- For every report whose algorithm has no line end in its name. Cut at its line ends, the
text gives the header, the lines for the index, the value and the algorithm, one for the
calls exactly if they were counted, and one for the time. With the labels taken off, the
reader has the index, the value, the algorithm and the calls again. So reports that differ
in one of these have different texts, whatever their times are. -/
theorem readItems_render (r : Report) (h : '\n' ∉ r.algorithm.toList) :
    Text.splitAt '\n' (r.render .human).toList
      = ["=== fib report ===".toList,
          "  n:          ".toList ++ Text.digits r.index.toNat,
          "  value:      ".toList ++ Text.digits r.value.toNat,
          "  algorithm:  ".toList ++ r.algorithm.toList]
        ++ (r.calls.map fun calls => "  calls:      ".toList ++ Text.digits calls.toNat).toList
        ++ ["  elapsed:    ".toList ++ (r.elapsed.fixed 3 ++ " ms".toList), []]
    ∧ readItems (r.render .human).toList
      = some ⟨r.index.toNat, r.value.toNat, r.algorithm.toList, r.calls.map (·.toNat),
          r.elapsed.fixed 3 ++ " ms".toList⟩
    ∧ ∀ other : Report, '\n' ∉ other.algorithm.toList →
        other.index ≠ r.index ∨ other.value ≠ r.value ∨ other.algorithm ≠ r.algorithm
          ∨ other.calls ≠ r.calls →
        other.render .human ≠ r.render .human := by
  have htext : ∀ report : Report, (report.render .human).toList = text report :=
    fun report => String.toList_ofList
  refine ⟨?_, ?_, ?_⟩
  · rw [htext, splitAt_text h, lines, List.append_assoc _ _ [[]]]
    rfl
  · rw [htext, readItems_text h]
    rfl
  · intro other hother hdiffer hsame
    have hitems := readItems_text hother
    rw [← htext, hsame, htext, readItems_text h] at hitems
    obtain ⟨hindex, hvalue, halgorithm, hcalls⟩ := of_itemsOf_eq (Option.some.inj hitems).symm
    rcases hdiffer with hne | hne | hne | hne
    · exact hne hindex
    · exact hne hvalue
    · exact hne halgorithm
    · exact hne hcalls

/-- A name that looks like the line for the calls is read as the name, and the report is
told from one that has these calls; the time is no number. -/
theorem readItems_of_misleading_name :
    readItems ((⟨93, 12200160415121876738, "  calls:      177", none, .notANumber⟩ :
        Report).render .human).toList
      = some ⟨93, 12200160415121876738, "  calls:      177".toList, none, "NaN ms".toList⟩
    ∧ (⟨93, 12200160415121876738, "", some 177, .notANumber⟩ : Report).render .human
      ≠ (⟨93, 12200160415121876738, "  calls:      177", none, .notANumber⟩ :
        Report).render .human := by
  obtain ⟨-, hread, hdiffer⟩ :=
    readItems_render ⟨93, 12200160415121876738, "  calls:      177", none, .notANumber⟩ (by decide)
  have htime : Binary64.notANumber.fixed 3 ++ " ms".toList = "NaN ms".toList := by decide
  rw [htime] at hread
  exact ⟨hread, hdiffer _ (by decide) (.inr (.inr (.inr (by decide))))⟩

end Fibonacci.Report.Human
