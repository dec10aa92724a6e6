/-
The line of a benchmark case read back.

The parts of a line have colons between them, and one of the parts is free text: the reason
of a refusal may have colons and parentheses of its own. So the line cannot be split at all
its colons. But the name has none, which is asked for, and the time has none, because it is a
numeral; the line is cut at the colon behind the one and at the colon before the other, from
both ends, and what is left between them is the outcome (`partsOf?_of_madeOf`).

Outcomes are read back too. A value starts with a digit and an error does not; each of the
two causes of an error starts with words of its own, and what follows them is the reason, up
to the last parenthesis, or a numeral (`outcomeOf?_outcomeText`). That no two outcomes have
the same text is that there is such a reader.
-/
import Fibonacci.Benchmark
import Fibonacci.Proofs.Numeral
import Mathlib.Data.List.Basic

set_option autoImplicit false

namespace Fibonacci

/-! ## Cutting a text -/

namespace Text

theorem dropPrefix?_append (mark rest : List Char) : (mark ++ rest).dropPrefix? mark = some rest :=
  List.dropPrefix?_append_of_beq rest (beq_self_eq_true mark)

/-- What stands before the first separator and what stands behind it. -/
def cutFirst? (separator : Char) : List Char → Option (List Char × List Char)
  | [] => none
  | c :: rest =>
    if c = separator then some ([], rest)
    else (cutFirst? separator rest).map fun cut => (c :: cut.1, cut.2)

/-- What stands before the last separator and what stands behind it. -/
def cutLast? (separator : Char) (text : List Char) : Option (List Char × List Char) :=
  (cutFirst? separator text.reverse).map fun cut => (cut.2.reverse, cut.1.reverse)

theorem cutFirst?_append {separator : Char} {before : List Char} (h : separator ∉ before)
    (after : List Char) :
    cutFirst? separator (before ++ separator :: after) = some (before, after) := by
  induction before with
  | nil => rw [List.nil_append, cutFirst?, if_pos rfl]
  | cons c before ih =>
    rw [List.mem_cons, not_or] at h
    rw [List.cons_append, cutFirst?, if_neg (Ne.symm h.1), ih h.2, Option.map_some]

theorem cutLast?_append {separator : Char} {after : List Char} (h : separator ∉ after)
    (before : List Char) :
    cutLast? separator (before ++ separator :: after) = some (before, after) := by
  -- read backwards, the last separator is the first
  have hreverse : (before ++ separator :: after).reverse
      = after.reverse ++ separator :: before.reverse := by
    rw [List.reverse_append, List.reverse_cons, List.append_assoc, List.singleton_append]
  rw [cutLast?, hreverse, cutFirst?_append (mt List.mem_reverse.mp h), Option.map_some,
    List.reverse_reverse, List.reverse_reverse]

end Text

namespace Benchmark

/-! ## The parts of a line -/

/-- The parts of a line, as they stand there. -/
structure Parts where
  name : List Char
  outcome : List Char
  elapsed : List Char
  deriving DecidableEq, Repr

/-- The line has these parts: behind its mark, the name goes up to the first colon and the
time starts behind the last. -/
structure MadeOf (line : List Char) (parts : Parts) : Prop where
  line_eq : line = "BENCH:fibonacci:".toList
    ++ (parts.name ++ ':' :: (parts.outcome ++ ':' :: parts.elapsed))
  name : ':' ∉ parts.name
  elapsed : ':' ∉ parts.elapsed

/-- Cuts a line into its parts. -/
def partsOf? (line : List Char) : Option Parts := do
  let rest ← line.dropPrefix? "BENCH:fibonacci:".toList
  let (name, rest) ← Text.cutFirst? ':' rest
  let (outcome, elapsed) ← Text.cutLast? ':' rest
  return ⟨name, outcome, elapsed⟩

/-- A line is cut into the parts that it is made of, so it is made of no others. -/
theorem partsOf?_of_madeOf {line : List Char} {parts : Parts} (h : MadeOf line parts) :
    partsOf? line = some parts := by
  rw [h.line_eq]
  simp only [partsOf?, Text.dropPrefix?_append, Text.cutFirst?_append h.name,
    Text.cutLast?_append h.elapsed, Option.bind_eq_bind, Option.bind_some]
  rfl

/-- The parts of a result. -/
def Result.parts (r : Result) : Parts :=
  ⟨r.name.toList, r.outcomeText.toList, Text.digits r.elapsed⟩

theorem Result.madeOf_line {r : Result} (h : ':' ∉ r.name.toList) :
    MadeOf r.line.toList r.parts := by
  -- the line is opened by `rfl`: its equations would run the texts in it
  have hline : r.line = "BENCH:fibonacci:" ++ r.name ++ ":" ++ r.outcomeText ++ ":"
      ++ Text.numeral r.elapsed := rfl
  refine ⟨?_, h, Text.not_mem_digits (by decide) r.elapsed⟩
  rw [hline]
  simp only [String.toList_append, Text.toList_numeral, List.append_assoc]
  rfl

theorem Result.madeOf_line_iff {r : Result} (h : ':' ∉ r.name.toList) {parts : Parts} :
    MadeOf r.line.toList parts ↔ parts = r.parts := by
  constructor
  · intro hparts
    have hsame := partsOf?_of_madeOf hparts
    rw [partsOf?_of_madeOf (Result.madeOf_line h)] at hsame
    exact (Option.some.inj hsame).symm
  · rintro rfl
    exact Result.madeOf_line h

/-! ## Outcomes -/

/-- Reads the cause of an error: the words in front tell which of the two it is. -/
def causeOf? (text : List Char) : Option EvalError :=
  match text.dropPrefix? "invalid argument: ".toList with
  | some reason => some (.invalidArgument (String.ofList reason))
  | none => do
    let rest ← text.dropPrefix? "fib(".toList
    return .overflow (UInt64.ofNat (Text.valueOf (rest.takeWhile Text.isDigit)))

/-- Reads an outcome: digits are a value, anything else is an error in its parentheses. -/
def outcomeOf? (text : List Char) : Option (Except EvalError UInt64) :=
  if Text.isNumeral text then some (.ok (UInt64.ofNat (Text.valueOf text)))
  else do
    let rest ← text.dropPrefix? "error(".toList
    let message ← rest.dropSuffix? ")".toList
    let cause ← causeOf? message
    return .error cause

theorem causeOf?_message (cause : EvalError) : causeOf? cause.message.toList = some cause := by
  rcases cause with reason | index
  · have hmessage : (EvalError.invalidArgument reason).message.toList
        = "invalid argument: ".toList ++ reason.toList := String.toList_append
    rw [causeOf?, hmessage, Text.dropPrefix?_append]
    dsimp only
    rw [String.ofList_toList]
  · obtain ⟨rest, hmessage⟩ : ∃ rest, (EvalError.overflow index).message.toList
        = "fib(".toList ++ (Text.digits index.toNat ++ ')' :: rest) := by
      change ∃ rest, ("fib(" ++ Text.numeral index.toNat ++ ") overflows a 64-bit unsigned integer "
        ++ "(largest supported n is " ++ Text.numeral maxIndex.toNat ++ ")").toList = _
      simp only [String.toList_append, Text.toList_numeral, List.append_assoc]
      exact ⟨_, rfl⟩
    have hother : ("fib(".toList ++ (Text.digits index.toNat ++ ')' :: rest)).dropPrefix?
        "invalid argument: ".toList = none := rfl
    have hdigits : (Text.digits index.toNat ++ ')' :: rest).takeWhile Text.isDigit
        = Text.digits index.toNat := by
      rw [List.takeWhile_append_of_pos fun c hc => Text.isDigit_of_mem_digits hc,
        List.takeWhile_cons_of_neg (by decide), List.append_nil]
    rw [hmessage]
    simp only [causeOf?, hother, Text.dropPrefix?_append, hdigits, Text.valueOf_digits,
      UInt64.ofNat_toNat, Option.bind_eq_bind, Option.bind_some]
    rfl

/-- The text of an error starts with a letter. -/
theorem not_isNumeral_error (text : List Char) :
    ¬ Text.isNumeral ("error(".toList ++ text) = true := by
  have hletter : 'e' ∈ "error(".toList ++ text := List.mem_append_left text (by decide)
  intro h
  rw [Text.isNumeral, Bool.and_eq_true, List.all_eq_true] at h
  exact absurd (h.2 'e' hletter) (by decide)

/-- The text of an outcome is read as the outcome. -/
theorem outcomeOf?_outcomeText (outcome : Except EvalError UInt64) :
    outcomeOf? (outcomeText outcome).toList = some outcome := by
  rcases outcome with cause | value
  · have htext : (outcomeText (.error cause)).toList
        = "error(".toList ++ (cause.message.toList ++ ")".toList) := by
      change ("error(" ++ cause.message ++ ")").toList = _
      rw [String.toList_append, String.toList_append, List.append_assoc]
    have hmessage : (cause.message.toList ++ ")".toList).dropSuffix? ")".toList
        = some cause.message.toList :=
      List.dropSuffix?_eq_some_iff.mpr ⟨_, rfl, beq_self_eq_true _⟩
    rw [outcomeOf?, htext, if_neg (not_isNumeral_error _)]
    simp only [Text.dropPrefix?_append, hmessage, causeOf?_message, Option.bind_eq_bind,
      Option.bind_some]
    rfl
  · have htext : (outcomeText (.ok value)).toList = Text.digits value.toNat :=
      Text.toList_numeral value.toNat
    rw [outcomeOf?, htext, if_pos (Text.isNumeral_digits _), Text.valueOf_digits,
      UInt64.ofNat_toNat]

/-- No two outcomes have the same text. -/
theorem outcomeText_injective : Function.Injective Benchmark.outcomeText := by
  intro outcome other h
  have hread := outcomeOf?_outcomeText outcome
  rw [h, outcomeOf?_outcomeText other] at hread
  exact (Option.some.inj hread).symm

/-! ## Reading a line -/

/-- What a line tells of a case. The known value does not stand on it. -/
structure Told where
  name : List Char
  outcome : Except EvalError UInt64
  elapsed : ℕ

/-- Reads a line. -/
def told? (line : List Char) : Option Told := do
  let parts ← partsOf? line
  let outcome ← outcomeOf? parts.outcome
  guard (Text.isNumeral parts.elapsed)
  return ⟨parts.name, outcome, Text.valueOf parts.elapsed⟩

theorem told?_line {r : Result} (h : ':' ∉ r.name.toList) :
    told? r.line.toList = some ⟨r.name.toList, r.outcome, r.elapsed⟩ := by
  simp only [told?, partsOf?_of_madeOf (Result.madeOf_line h), Result.parts, Result.outcomeText,
    outcomeOf?_outcomeText, Text.isNumeral_digits, Text.valueOf_digits, Option.bind_eq_bind,
    Option.bind_some]
  rfl

/-! ## Main statement -/

/-- For every result whose name has no colon. Its line has one reading: behind the mark, what
stands before the first colon is the name, what stands behind the last is the time in decimal,
and what stands between is the text of the outcome. Different outcomes, be they values or
errors with whatever in their reasons, have different texts. So the name, the outcome and the
time are read from the line, and results with the same line have the same three. -/
theorem line_tells_name_outcome_and_time (r : Result) (h : ':' ∉ r.name.toList) :
    (∀ parts, MadeOf r.line.toList parts
      ↔ parts = ⟨r.name.toList, r.outcomeText.toList, (toString r.elapsed).toList⟩)
    ∧ Function.Injective Benchmark.outcomeText
    ∧ told? r.line.toList = some ⟨r.name.toList, r.outcome, r.elapsed⟩
    ∧ ∀ other : Result, ':' ∉ other.name.toList → other.line = r.line →
        other.name = r.name ∧ other.outcome = r.outcome ∧ other.elapsed = r.elapsed := by
  refine ⟨?_, outcomeText_injective, told?_line h, ?_⟩
  · intro parts
    rw [Result.madeOf_line_iff h, Result.parts, ← Text.numeral_eq_toString, Text.toList_numeral]
  · intro other hother hline
    have htold := told?_line hother
    rw [hline, told?_line h] at htold
    obtain ⟨hname, houtcome, helapsed⟩ := Told.mk.inj (Option.some.inj htold)
    exact ⟨(String.toList_inj.mp hname).symm, houtcome.symm, helapsed.symm⟩

/-- A reason that has what looks like the end of an outcome and a time in it, and the largest
time of a hundred and twenty-eight bits. -/
theorem line_with_colons_in_reason :
    told? (Result.mk "x" (.error (.invalidArgument "1): 2:3")) 0 (2 ^ 128 - 1)).line.toList
      = some ⟨"x".toList, .error (.invalidArgument "1): 2:3"), 2 ^ 128 - 1⟩
    ∧ (Result.mk "x" (.error (.overflow 94)) 0 (2 ^ 128 - 1)).line
      ≠ (Result.mk "x" (.error (.invalidArgument "1): 2:3")) 0 (2 ^ 128 - 1)).line := by
  obtain ⟨-, -, htold, hsame⟩ := line_tells_name_outcome_and_time
    (Result.mk "x" (.error (.invalidArgument "1): 2:3")) 0 (2 ^ 128 - 1)) (by decide)
  refine ⟨htold, ?_⟩
  intro hline
  obtain ⟨-, houtcome, -⟩ :=
    hsame (Result.mk "x" (.error (.overflow 94)) 0 (2 ^ 128 - 1)) (by decide) hline
  cases houtcome

end Benchmark
end Fibonacci
