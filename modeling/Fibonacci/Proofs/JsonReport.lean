/-
JSON reports, read back.

The text of a report is one object whose members come in a fixed order, and a reader of
JSON gets back what was written: the index, the value and the calls with all their
digits, and the name of the algorithm whatever characters it has. So the text determines
these four. The time is a number where it is finite and `null` where it is not.

The reader is run along the text once. A character is escaped or stands for itself, and
either way the reader has it back before it looks further (`quoted?_escapeChar`); a value
is read up to the comma or the brace behind it (`ReadsAs`); and so a round of the reader
takes off exactly one member. No member is mistaken for another, whether the calls are
there or not, because each round starts where a member starts.
-/
import Fibonacci.Proofs.JsonNumber
import Fibonacci.Report.Render

set_option autoImplicit false

namespace Fibonacci.Json

open Report.Json (escapeLetter? escapeChar escape quote member)
open Toml (collect prepend)

/-! ## Texts -/

theorem escaped?_of_escapeLetter? {c letter : Char} (h : escapeLetter? c = some letter) :
    letter ≠ 'u' ∧ escaped? letter = some c := by
  unfold escapeLetter? at h
  split at h <;> cases h <;> exact ⟨by decide, rfl⟩

/-- Four digits that name a control character are read as that character. -/
theorem quoted?_hexPadded {c : Char} (hc : c.toNat < 0x20) (rest : List Char) :
    quoted? (some (.unit none 3 0)) (Text.hexPadded 4 c.toNat ++ rest)
      = prepend c (quoted? none rest) := by
  have hdigits : Text.hexPadded 4 c.toNat
      = [Text.hexChar (c.toNat / 16 / 16 / 16), Text.hexChar (c.toNat / 16 / 16),
          Text.hexChar (c.toNat / 16), Text.hexChar c.toNat] := rfl
  have hvalue : (((0 * 16 + c.toNat / 16 / 16 / 16 % 16) * 16 + c.toNat / 16 / 16 % 16) * 16
      + c.toNat / 16 % 16) * 16 + c.toNat % 16 = c.toNat := by omega
  have hlow : isHigh c.toNat = false := decide_eq_false (by omega)
  rw [hdigits]
  simp only [List.cons_append, List.nil_append, quoted?, Escape.step, Text.hexValue?_hexChar,
    hvalue, Escape.ofUnit, hlow, Toml.scalar?_toNat]
  rfl

/-- A character is back before the reader looks at what follows it. -/
theorem quoted?_escapeChar (c : Char) (rest : List Char) :
    quoted? none (escapeChar c ++ rest) = prepend c (quoted? none rest) := by
  unfold escapeChar
  cases hletter : escapeLetter? c with
  | some letter =>
    obtain ⟨hne, hback⟩ := escaped?_of_escapeLetter? hletter
    simp [quoted?, Escape.step, hne, hback]
  | none =>
    by_cases hcontrol : c.toNat < 0x20
    · rw [if_pos hcontrol]
      exact quoted?_hexPadded hcontrol rest
    · have hquote : c ≠ '"' := by
        rintro rfl
        cases hletter
      have hslash : c ≠ '\\' := by
        rintro rfl
        cases hletter
      rw [if_neg hcontrol]
      change quoted? none (c :: rest) = _
      rw [quoted?, if_neg hquote, if_neg hslash, if_neg hcontrol]

theorem quoted?_escape (text rest : List Char) :
    quoted? none (escape text ++ '"' :: rest) = some (text, rest) := by
  induction text with
  | nil => rfl
  | cons c text ih =>
    rw [Report.Json.escape_cons, List.append_assoc, quoted?_escapeChar, ih]
    rfl

/-! ## Values of members -/

theorem skipBlanks_cons {c : Char} (hc : isBlank c = false) (rest : List Char) :
    skipBlanks (c :: rest) = c :: rest :=
  List.dropWhile_cons_of_neg (by rw [hc]; decide)

/-- Whatever the depth left, the text is read as the value, up to the end of its
member. -/
def ReadsAs (text : List Char) (value : Value) : Prop :=
  ∀ depth c rest, EndsMember c →
    value? depth (skipBlanks (text ++ c :: rest)) = some (value, c :: rest)

theorem value?_eq_scalar? {c : Char} (hbracket : c ≠ '[') (hbrace : c ≠ '\x7b') (depth : ℕ)
    (rest : List Char) : value? depth (c :: rest) = scalar? (c :: rest) := by
  cases depth with
  | zero => rfl
  | succ depth =>
    unfold value?
    split
    · rename_i heq
      exact absurd (List.cons.inj heq).1 hbracket
    · rename_i heq
      exact absurd (List.cons.inj heq).1 hbrace
    · rfl

theorem scalar?_eq_number? {c : Char} (hc : c = '-' ∨ Text.isDigit c = true)
    (rest : List Char) :
    scalar? (c :: rest) = (number? (c :: rest)).map fun (x, rest) => (.number x, rest) := by
  unfold scalar?
  split
  · rename_i heq
    exact absurd (List.cons.inj heq).1 (Text.ne_of_startsNumber hc (by decide) (by decide))
  · rename_i heq
    exact absurd (List.cons.inj heq).1 (Text.ne_of_startsNumber hc (by decide) (by decide))
  · rename_i heq
    exact absurd (List.cons.inj heq).1 (Text.ne_of_startsNumber hc (by decide) (by decide))
  · rename_i heq
    exact absurd (List.cons.inj heq).1 (Text.ne_of_startsNumber hc (by decide) (by decide))
  · rfl

theorem readsAs_number {text : List Char} {x : Number} (h : Spells text x) :
    ReadsAs text (.number x) := by
  intro depth c rest hc
  obtain ⟨d, more, rfl, hd⟩ := h.head
  have hblank : isBlank d = false := by
    have hspace : d ≠ ' ' := Text.ne_of_startsNumber hd (by decide) (by decide)
    have htab : d ≠ '\t' := Text.ne_of_startsNumber hd (by decide) (by decide)
    have hfeed : d ≠ '\n' := Text.ne_of_startsNumber hd (by decide) (by decide)
    have hreturn : d ≠ '\r' := Text.ne_of_startsNumber hd (by decide) (by decide)
    simp [isBlank, hspace, htab, hfeed, hreturn]
  have hbracket : d ≠ '[' := Text.ne_of_startsNumber hd (by decide) (by decide)
  have hbrace : d ≠ '\x7b' := Text.ne_of_startsNumber hd (by decide) (by decide)
  have hnumber := number?_append h hc rest
  rw [List.cons_append] at hnumber ⊢
  rw [skipBlanks_cons hblank, value?_eq_scalar? hbracket hbrace, scalar?_eq_number? hd, hnumber]
  rfl

theorem readsAs_quote (text : List Char) :
    ReadsAs (quote text) (.string (String.ofList text)) := by
  intro depth c rest hc
  have hquoted := quoted?_escape text (c :: rest)
  rw [quote, List.cons_append, List.append_assoc, skipBlanks_cons (by decide),
    value?_eq_scalar? (by decide) (by decide)]
  change (quoted? none (escape text ++ '"' :: c :: rest)).map _ = _
  rw [hquoted]
  rfl

theorem readsAs_null : ReadsAs "null".toList .null := by
  intro depth c rest hc
  change value? depth ('n' :: 'u' :: 'l' :: 'l' :: c :: rest) = _
  rw [value?_eq_scalar? (by decide) (by decide)]
  rfl

/-! ## Members -/

/-- A name and the text of a value, as the reader has them. -/
def MemberReads (entry : List Char × List Char) (read : String × Value) : Prop :=
  read.1 = String.ofList entry.1 ∧ ReadsAs entry.2 read.2

theorem member?_member {entry : List Char × List Char} {read : String × Value}
    (h : MemberReads entry read) (depth : ℕ) {c : Char} (hc : EndsMember c)
    (rest : List Char) :
    member? (value? depth) (skipBlanks (member entry ++ c :: rest))
      = some (read, c :: rest) := by
  obtain ⟨name, text⟩ := entry
  obtain ⟨readName, value⟩ := read
  obtain ⟨rfl, htext⟩ := h
  have hname := quoted?_escape name (':' :: (text ++ c :: rest))
  have hvalue := htext depth c rest hc
  have hshape : member (name, text) ++ c :: rest
      = '"' :: (escape name ++ '"' :: ':' :: (text ++ c :: rest)) := by
    simp [member, quote]
  rw [hshape, skipBlanks_cons (by decide), member?, hname]
  change ((value? depth (skipBlanks (text ++ c :: rest))).bind fun content =>
    some ((String.ofList name, content.1), content.2)) = _
  rw [hvalue]
  rfl

theorem memberRound_comma {entry : List Char × List Char} {read : String × Value}
    (h : MemberReads entry read) (depth : ℕ) (rest : List Char) :
    memberRound (value? depth) (member entry ++ ',' :: rest) = some (.more read rest) := by
  rw [memberRound, member?_member h depth (.inl rfl) rest]
  rfl

theorem memberRound_brace {entry : List Char × List Char} {read : String × Value}
    (h : MemberReads entry read) (depth : ℕ) (rest : List Char) :
    memberRound (value? depth) (member entry ++ '\x7d' :: rest) = some (.last read rest) := by
  rw [memberRound, member?_member h depth (.inr rfl) rest]
  rfl

/-- Every round takes one member off, so the rounds together take them all. -/
theorem collect_members {first : List Char × List Char} {entries : List (List Char × List Char)}
    {read : String × Value} {reads : List (String × Value)} (hfirst : MemberReads first read)
    (h : List.Forall₂ MemberReads entries reads) (depth : ℕ) (rest : List Char) :
    collect (memberRound (value? depth))
        (List.intercalate [','] ((first :: entries).map member) ++ '\x7d' :: rest)
      = some (read :: reads, rest) := by
  induction h generalizing first read with
  | nil =>
    have hround := memberRound_brace hfirst depth rest
    simpa using Toml.collect_of_last hround
  | @cons second read₂ entries reads hsecond _ ih =>
    have hround := memberRound_comma hfirst depth
      (List.intercalate [','] ((second :: entries).map member) ++ '\x7d' :: rest)
    have hcollect := Toml.collect_of_more hround (by simp; omega) (ih hsecond)
    simpa [List.intercalate_cons_cons] using hcollect

/-- An object with at least one member is read as these members, in order. -/
theorem read_object {first : List Char × List Char} {entries : List (List Char × List Char)}
    {read : String × Value} {reads : List (String × Value)} (hfirst : MemberReads first read)
    (h : List.Forall₂ MemberReads entries reads) :
    Json.read ('\x7b' :: (List.intercalate [','] ((first :: entries).map member) ++ ['\x7d']))
      = some (.object (read :: reads)) := by
  have hcollect := collect_members hfirst h 126 []
  obtain ⟨more, hbody⟩ : ∃ more, List.intercalate [','] ((first :: entries).map member)
      ++ ['\x7d'] = '"' :: more := by
    cases entries with
    | nil => exact ⟨_, rfl⟩
    | cons second entries => exact ⟨_, rfl⟩
  have hobject : object? (value? 126)
      (List.intercalate [','] ((first :: entries).map member) ++ ['\x7d'])
        = some (.object (read :: reads), []) := by
    -- the first character after the brace is a quote, so the object is not empty
    rw [hbody] at hcollect ⊢
    rw [object?, skipBlanks_cons (by decide)]
    change (collect (memberRound (value? 126)) ('"' :: more)).map _ = _
    rw [hcollect]
    rfl
  rw [Json.read, skipBlanks_cons (by decide)]
  change ((object? (value? 126)
      (List.intercalate [','] ((first :: entries).map member) ++ ['\x7d'])).bind fun value =>
    if (skipBlanks value.2).isEmpty then some value.1 else none) = _
  rw [hobject]
  rfl

/-! ## Reports -/

/-- A report as the object that a reader is to find, around the time that it finds. -/
def ofReport (r : Report) (elapsed : Value) : Value :=
  .object
    ([("n", .number (.ofNat r.index.toNat)), ("value", .number (.ofNat r.value.toNat)),
      ("algorithm", .string r.algorithm)]
      ++ (r.calls.map fun calls => ("calls", .number (.ofNat calls.toNat))).toList
      ++ [("elapsed_ms", elapsed)])

theorem memberReads_digits (name : String) (n : ℕ) :
    MemberReads (name.toList, Text.digits n) (name, .number (.ofNat n)) :=
  ⟨String.ofList_toList.symm, readsAs_number (spells_digits n)⟩

theorem memberReads_quote (name text : String) :
    MemberReads (name.toList, quote text.toList) (name, .string text) := by
  refine ⟨String.ofList_toList.symm, ?_⟩
  have hquote := readsAs_quote text.toList
  rwa [String.ofList_toList] at hquote

/-- Where the time is read, the whole report is. -/
theorem read_text (r : Report) {elapsed : Value}
    (h : ReadsAs (Report.Json.number r.elapsed) elapsed) :
    Json.read (Report.Json.text r) = some (ofReport r elapsed) := by
  have hn := memberReads_digits "n" r.index.toNat
  have hvalue := memberReads_digits "value" r.value.toNat
  have halgorithm := memberReads_quote "algorithm" r.algorithm
  have helapsed : MemberReads ("elapsed_ms".toList, Report.Json.number r.elapsed)
      ("elapsed_ms", elapsed) := ⟨String.ofList_toList.symm, h⟩
  unfold Report.Json.text Report.Json.members ofReport
  cases r.calls with
  | none => exact read_object hn (.cons hvalue (.cons halgorithm (.cons helapsed .nil)))
  | some calls =>
    have hcalls := memberReads_digits "calls" calls.toNat
    exact read_object hn
      (.cons hvalue (.cons halgorithm (.cons hcalls (.cons helapsed .nil))))

/-- The time of a report is read as a number or as `null`. -/
theorem exists_readsAs_elapsed (x : Binary64) :
    ∃ elapsed, ReadsAs (Report.Json.number x) elapsed
      ∧ ((∃ magnitude, x.kind = .finite magnitude) → ∃ y, elapsed = .number y)
      ∧ ((∀ magnitude, x.kind ≠ .finite magnitude) → elapsed = .null) := by
  by_cases hfinite : ∃ magnitude, x.kind = .finite magnitude
  · obtain ⟨magnitude, hkind⟩ := hfinite
    obtain ⟨y, hy⟩ := exists_spells_number hkind
    refine ⟨.number y, readsAs_number hy, fun _ => ⟨y, rfl⟩, ?_⟩
    intro hnone
    exact absurd hkind (hnone magnitude)
  · have hnone : ∀ magnitude, x.kind ≠ .finite magnitude :=
      fun magnitude hkind => hfinite ⟨magnitude, hkind⟩
    refine ⟨.null, ?_, fun h => absurd h hfinite, fun _ => rfl⟩
    rw [number_of_not_finite hnone]
    exact readsAs_null

theorem Value.number_ofNat_inj {m n : ℕ}
    (h : Value.number (.ofNat m) = Value.number (.ofNat n)) : m = n :=
  congrArg Number.coefficient (Value.number.inj h)

/-- The object determines everything in a report but the time. -/
theorem of_ofReport_eq {r other : Report} {elapsed elapsed' : Value}
    (h : ofReport other elapsed' = ofReport r elapsed) :
    other.index = r.index ∧ other.value = r.value ∧ other.algorithm = r.algorithm
      ∧ other.calls = r.calls := by
  have hmembers := Value.object.inj h
  simp only [List.cons_append, List.nil_append, List.cons.injEq, Prod.mk.injEq, true_and]
    at hmembers
  obtain ⟨hindex, hvalue, halgorithm, hrest⟩ := hmembers
  refine ⟨UInt32.toNat_inj.mp (Value.number_ofNat_inj hindex),
    UInt64.toNat_inj.mp (Value.number_ofNat_inj hvalue), Value.string.inj halgorithm, ?_⟩
  -- what is left of the members is the time, and the calls before it where there are any
  cases hother : other.calls with
  | none =>
    cases hcalls : r.calls with
    | none => rfl
    | some calls =>
      rw [hother, hcalls] at hrest
      have hlength := congrArg List.length hrest
      simp at hlength
  | some callsOther =>
    cases hcalls : r.calls with
    | none =>
      rw [hother, hcalls] at hrest
      have hlength := congrArg List.length hrest
      simp at hlength
    | some calls =>
      rw [hother, hcalls] at hrest
      have hmember := congrArg Prod.snd (List.cons.inj hrest).1
      rw [UInt64.toNat_inj.mp (Value.number_ofNat_inj hmember)]

/-! ## Main statement -/

/-- Every report in JSON is read as one object with the members `n`, `value`,
`algorithm`, `calls` where they were counted, and `elapsed_ms`, in this order and no
others. The numbers are the index, the value and the calls with all their digits, and
the text is the name of the algorithm; the time is a number exactly if it is finite and
`null` otherwise. Reports that differ in anything but the time have different texts. -/
theorem read_render (r : Report) :
    (∃ elapsed, Json.read (r.render .json).toList = some (.object
        ([("n", .number (.ofNat r.index.toNat)), ("value", .number (.ofNat r.value.toNat)),
          ("algorithm", .string r.algorithm)]
          ++ (r.calls.map fun calls => ("calls", .number (.ofNat calls.toNat))).toList
          ++ [("elapsed_ms", elapsed)]))
      ∧ ((∃ magnitude, r.elapsed.kind = .finite magnitude) → ∃ x, elapsed = .number x)
      ∧ ((∀ magnitude, r.elapsed.kind ≠ .finite magnitude) → elapsed = .null))
    ∧ ∀ other : Report, other.index ≠ r.index ∨ other.value ≠ r.value
        ∨ other.algorithm ≠ r.algorithm ∨ other.calls ≠ r.calls →
          other.render .json ≠ r.render .json := by
  have htext : ∀ report : Report, (report.render .json).toList = Report.Json.text report :=
    fun report => String.toList_ofList
  obtain ⟨elapsed, hreads, hnumber, hnull⟩ := exists_readsAs_elapsed r.elapsed
  have hread : Json.read (r.render .json).toList = some (ofReport r elapsed) := by
    rw [htext]
    exact read_text r hreads
  refine ⟨⟨elapsed, hread, hnumber, hnull⟩, ?_⟩
  intro other hdiffer hsame
  obtain ⟨elapsed', hreads', -, -⟩ := exists_readsAs_elapsed other.elapsed
  have hother := read_text other hreads'
  rw [← htext, hsame, hread] at hother
  obtain ⟨hindex, hvalue, halgorithm, hcalls⟩ := of_ofReport_eq (Option.some.inj hother).symm
  rcases hdiffer with hne | hne | hne | hne
  · exact hne hindex
  · exact hne hvalue
  · exact hne halgorithm
  · exact hne hcalls

/-- A report with the largest numbers there are, an algorithm's name made of a quote, a
line feed, a control character and a backslash, and a time that is no number. -/
theorem read_render_extreme :
    Json.read ((⟨4294967295, 18446744073709551615, "\"\n\x1b\\", some 18446744073709551615,
        .notANumber⟩ : Report).render .json).toList
      = some (.object [("n", .number (.ofNat 4294967295)),
          ("value", .number (.ofNat 18446744073709551615)),
          ("algorithm", .string "\"\n\x1b\\"),
          ("calls", .number (.ofNat 18446744073709551615)), ("elapsed_ms", .null)])
    ∧ (⟨4294967295, 18446744073709551614, "\"\n\x1b\\", some 18446744073709551615,
        .notANumber⟩ : Report).render .json
      ≠ (⟨4294967295, 18446744073709551615, "\"\n\x1b\\", some 18446744073709551615,
        .notANumber⟩ : Report).render .json := by
  obtain ⟨⟨elapsed, hread, -, hnull⟩, hdiffer⟩ := read_render
    ⟨4294967295, 18446744073709551615, "\"\n\x1b\\", some 18446744073709551615, .notANumber⟩
  have hkind : Binary64.notANumber.kind = .nan := by decide
  have helapsed : elapsed = .null := hnull fun magnitude hfinite => by
    rw [hkind] at hfinite
    cases hfinite
  rw [helapsed] at hread
  exact ⟨hread, hdiffer _ (.inr (.inl (by decide)))⟩

end Fibonacci.Json
