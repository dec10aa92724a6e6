/-
The text of a report.

Two things about it are needed wherever a report is compared with what stands on a
channel. On standard error a report is its text with one line end behind it: the blanks
that give way there are never more than the line end of the last line. And whether a
report has calls can be seen from its text, since the word occurs where they are shown
and nowhere else; no label, no name of an algorithm and no number has its first letter.

Which characters the numbers of a report are written with is said once for each of the two
forms (`mem_fixed`, `mem_number`). That a number has no such letter, no line end and no
control character is then read off the list.
-/
import Fibonacci.Algorithm
import Fibonacci.Proofs.JsonNumber
import Fibonacci.Report.Render

set_option autoImplicit false

namespace Fibonacci.Report

/-! ## Line ends -/

/-- The lines end with the unit of the time, so of the blanks at their end only the last
line end is one. -/
theorem trimEnd_human (r : Report) :
    Text.trimEnd (r.renderChars .human) ++ ['\n'] = r.renderChars .human := by
  obtain ⟨body, hbody⟩ : ∃ body, r.renderChars .human = body ++ ['s'] ++ ['\n'] := by
    have hunit : " ms".toList = [' ', 'm'] ++ ['s'] := by decide
    rw [renderChars, Human.text, Human.lines, List.flatMap_append, List.flatMap_singleton,
      Human.duration, hunit, ← List.append_assoc, ← List.append_assoc, ← List.append_assoc,
      ← List.append_assoc]
    exact ⟨_, rfl⟩
  rw [hbody, Text.trimEnd_concat_of_blank (by decide),
    Text.trimEnd_concat_of_not_blank (by decide)]

/-- An object ends with its brace, and no blank is dropped. -/
theorem trimEnd_json (r : Report) :
    Text.trimEnd (r.renderChars .json) = r.renderChars .json := by
  have hbrace : "\x7d".toList = ['\x7d'] := by decide
  rw [renderChars, Json.text, hbrace, Text.trimEnd_concat_of_not_blank (by decide)]

theorem renderLine_human (r : Report) : r.renderLine .human = r.render .human := by
  rw [renderLine, render, trimEnd_human]

theorem renderLine_json (r : Report) : r.renderLine .json = r.render .json ++ "\n" := by
  rw [renderLine, render, trimEnd_json, String.ofList_append]

/-! ## Characters -/

theorem eq_of_mem_sign {x : Binary64} {c : Char} (h : c ∈ x.sign) : c = '-' := by
  unfold Binary64.sign at h
  split at h
  · exact List.mem_singleton.mp h
  · cases h

/-- A number in fixed form has digits, a sign and a point, or the letters of a word. -/
theorem mem_fixed {places : ℕ} {x : Binary64} {c : Char} (h : c ∈ x.fixed places) :
    Text.isDigit c = true ∨ c ∈ "-.NaNinf".toList := by
  have hsign : c ∈ x.sign → c ∈ "-.NaNinf".toList := by
    intro hc
    rw [eq_of_mem_sign hc]
    decide
  unfold Binary64.fixed at h
  split at h
  · simp only [Binary64.setPoint, List.mem_append, List.mem_cons] at h
    rcases h with h | h | rfl | h | h
    · exact .inr (hsign h)
    · exact .inl (Text.isDigit_of_mem_digits h)
    · exact .inr (by decide)
    · rw [List.eq_of_mem_replicate h]
      exact .inl (by decide)
    · exact .inl (Text.isDigit_of_mem_digits h)
  · right
    unfold Binary64.special at h
    split at h
    · have hword : ['N', 'a', 'N'] ⊆ "-.NaNinf".toList := by decide
      exact hword h
    · have hword : ['i', 'n', 'f'] ⊆ "-.NaNinf".toList := by decide
      rcases List.mem_append.mp h with h | h
      · exact hsign h
      · exact hword h

/-- A number in JSON has digits, signs, a point and the mark of an exponent. -/
theorem mem_of_spells {text : List Char} {y : Fibonacci.Json.Number} {c : Char}
    (h : Fibonacci.Json.Spells text y) (hc : c ∈ text) :
    Text.isDigit c = true ∨ c ∈ "-+.e".toList := by
  rcases h with @⟨whole, fraction, places, power, exponent, negative, isWhole, isFraction, isPower⟩
  simp only [List.mem_append] at hc
  rcases hc with ((hc | hc) | hc) | hc
  · split at hc
    · rw [List.mem_singleton.mp hc]
      exact .inr (by decide)
    · cases hc
  · exact .inl (isWhole.1.2 c hc)
  · rcases isFraction with _ | run
    · cases hc
    · rcases List.mem_cons.mp hc with rfl | hc
      · exact .inr (by decide)
      · exact .inl (run.2 c hc)
  · rcases isPower with _ | run | run
    · cases hc
    · simp only [List.mem_cons] at hc
      rcases hc with rfl | rfl | hc
      · exact .inr (by decide)
      · exact .inr (by decide)
      · exact .inl (run.2 c hc)
    · simp only [List.mem_cons] at hc
      rcases hc with rfl | rfl | hc
      · exact .inr (by decide)
      · exact .inr (by decide)
      · exact .inl (run.2 c hc)

theorem mem_number {x : Binary64} {c : Char} (h : c ∈ Json.number x) :
    Text.isDigit c = true ∨ c ∈ "-+.enul".toList := by
  by_cases hfinite : ∃ magnitude, x.kind = .finite magnitude
  · obtain ⟨magnitude, hkind⟩ := hfinite
    obtain ⟨y, hy⟩ := Fibonacci.Json.exists_spells_number hkind
    have hmarks : "-+.e".toList ⊆ "-+.enul".toList := by decide
    exact (mem_of_spells hy h).imp_right fun hc => hmarks hc
  · have hword : "null".toList ⊆ "-+.enul".toList := by decide
    rw [Fibonacci.Json.number_of_not_finite fun magnitude hkind => hfinite ⟨magnitude, hkind⟩] at h
    exact .inr (hword h)

/-! ## Calls -/

theorem not_mem_digits (n : ℕ) : 'c' ∉ Text.digits n := Text.not_mem_digits (by decide) n

theorem not_mem_fixed (places : ℕ) (x : Binary64) : 'c' ∉ x.fixed places := by
  intro h
  rcases mem_fixed h with h | h
  · exact absurd h (by decide)
  · exact absurd h (by decide)

theorem not_mem_number (x : Binary64) : 'c' ∉ Json.number x := by
  intro h
  rcases mem_number h with h | h
  · exact absurd h (by decide)
  · exact absurd h (by decide)

/-- Without calls, nothing in the text has the first letter of the word. -/
theorem not_mem_renderChars {r : Report} {a : Algorithm} (hname : r.algorithm = a.name)
    (hcalls : r.calls = none) (format : Format) : 'c' ∉ r.renderChars format := by
  rcases format with _ | _
  · have halgorithm : 'c' ∉ r.algorithm.toList := by
      rw [hname]
      rcases a with _ | _ <;> decide
    unfold renderChars Human.text Human.lines Human.header Human.duration
    simp [hcalls, not_mem_digits, not_mem_fixed, halgorithm]
  · have halgorithm : 'c' ∉ Json.quote r.algorithm.toList := by
      rw [hname]
      rcases a with _ | _ <;> decide
    have hn : 'c' ∉ Json.quote ['n'] := by decide
    have hvalue : 'c' ∉ Json.quote ['v', 'a', 'l', 'u', 'e'] := by decide
    have hlabel : 'c' ∉ Json.quote ['a', 'l', 'g', 'o', 'r', 'i', 't', 'h', 'm'] := by decide
    have helapsed : 'c' ∉ Json.quote ['e', 'l', 'a', 'p', 's', 'e', 'd', '_', 'm', 's'] := by
      decide
    unfold renderChars Json.text Json.members Json.member
    simp [hcalls, List.intercalate, not_mem_digits, not_mem_number, halgorithm, hn, hvalue,
      hlabel, helapsed]

/-- With calls, the word is in the text: it is in a line of its own, or in a member. -/
theorem infix_renderChars {r : Report} {calls : UInt64} (hcalls : r.calls = some calls)
    (format : Format) : "calls".toList <:+: r.renderChars format := by
  rcases format with _ | _
  · have hline : "  calls:      ".toList ++ Text.digits calls.toNat ++ ['\n']
        ∈ (Human.lines r).map (· ++ ['\n']) :=
      List.mem_map_of_mem (by simp [Human.lines, hcalls])
    have hword : "calls".toList <:+: "  calls:      ".toList :=
      ⟨"  ".toList, ":      ".toList, by decide⟩
    rw [renderChars, Human.text, List.flatMap_def]
    refine hword.trans (List.IsInfix.trans ?_ (List.infix_of_mem_flatten hline))
    rw [List.append_assoc]
    exact (List.prefix_append _ _).isInfix
  · have hmember : Json.member ("calls".toList, Text.digits calls.toNat)
        ∈ ((Json.members r).map Json.member).intersperse [','] := by
      simp [Json.members, hcalls]
    have hword : "calls".toList <:+: Json.quote "calls".toList := ⟨['"'], ['"'], by decide⟩
    rw [renderChars, Json.text, List.intercalate]
    refine hword.trans (List.IsInfix.trans ?_ (List.infix_append _ _ _))
    refine List.IsInfix.trans ?_ (List.infix_of_mem_flatten hmember)
    exact (List.prefix_append _ _).isInfix

theorem infix_renderChars_append_iff {r : Report} {a : Algorithm} (hname : r.algorithm = a.name)
    (format : Format) {ending : List Char} (hending : 'c' ∉ ending) :
    "calls".toList <:+: r.renderChars format ++ ending ↔ r.calls.isSome = true := by
  rcases hcalls : r.calls with _ | calls
  · simp only [Option.isSome_none, Bool.false_eq_true, iff_false]
    intro hinfix
    have hmem : 'c' ∈ r.renderChars format ++ ending := hinfix.subset (by decide)
    rcases List.mem_append.mp hmem with hmem | hmem
    · exact not_mem_renderChars hname hcalls format hmem
    · exact hending hmem
  · simp only [Option.isSome_some, iff_true]
    exact (infix_renderChars hcalls format).trans (List.prefix_append _ _).isInfix

/-- Whether a report has calls can be seen from its text. -/
theorem infix_render_iff {r : Report} {a : Algorithm} (hname : r.algorithm = a.name)
    (format : Format) : "calls".toList <:+: (r.render format).toList ↔ r.calls.isSome = true := by
  have htext : (r.render format).toList = r.renderChars format ++ [] := by
    rw [render, String.toList_ofList, List.append_nil]
  rw [htext]
  exact infix_renderChars_append_iff hname format List.not_mem_nil

theorem infix_renderLine_iff {r : Report} {a : Algorithm} (hname : r.algorithm = a.name)
    (format : Format) :
    "calls".toList <:+: (r.renderLine format).toList ↔ r.calls.isSome = true := by
  rcases format with _ | _
  · rw [renderLine_human]
    exact infix_render_iff hname .human
  · have hline : (r.renderLine .json).toList = r.renderChars .json ++ ['\n'] := by
      rw [renderLine_json, String.toList_append, render, String.toList_ofList]
      rfl
    rw [hline]
    exact infix_renderChars_append_iff hname .json (by decide)

end Fibonacci.Report
