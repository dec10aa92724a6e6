/-
The benchmark passes, whatever its bound.

The recursive cases are too slow to be run in a proof. What they come to is known from
the sequence: repetition changes nothing, both algorithms give the Fibonacci number
where it fits, and a known value that is a Fibonacci number fits because it is a word.
So a case is `Sound` if it runs at all and its known value is the number at its index,
and that is a fact about the table.

The name of a case tells its algorithm, its index and how often it is repeated, and
nothing else of it. Sound cases with one name are equal, and that is why no two lines of
a benchmark have the same name.

Which cases there are depends on the bound through two filters, and a larger bound lets
more through; what is printed depends on the results alone, and where all of them have
passed there is one line for each.
-/
import Fibonacci.Proofs.Diagnostics

set_option autoImplicit false

namespace Fibonacci

/-! ## Names -/

namespace Benchmark

theorem newline_notMem_digits (n : ℕ) : '\n' ∉ Text.digits n :=
  Text.not_mem_digits (by decide) n

/-- What the name of a case ends with. -/
def roundsText : Option ℕ → List Char
  | none => []
  | some rounds => '-' :: 'x' :: Text.digits rounds

theorem roundsText_inj {rounds other : Option ℕ} (h : roundsText rounds = roundsText other) :
    rounds = other := by
  rcases rounds with _ | rounds <;> rcases other with _ | other
  · rfl
  · cases h
  · cases h
  · obtain ⟨-, htail⟩ := List.cons.inj h
    rw [Text.digits_inj (List.cons.inj htail).2]

theorem not_isDigit_of_mem_head?_roundsText (rounds : Option ℕ) :
    ∀ c ∈ (roundsText rounds).head?, Text.isDigit c = false := by
  intro c hc
  rcases rounds with _ | rounds
  · cases hc
  · cases hc
    decide

theorem Case.toList_name (c : Case) :
    c.name.toList
      = "fib-".toList ++ (c.algorithm.name.toList ++ ('-' :: (Text.digits c.n.toNat
          ++ roundsText c.rounds))) := by
  unfold Case.name roundsText
  rcases c.rounds with _ | rounds
  · simp [Text.toList_numeral]
  · simp [Text.toList_numeral]

/-- A name tells the algorithm, the index and the rounds. -/
theorem Case.name_inj {c d : Case} (h : c.name = d.name) :
    c.algorithm = d.algorithm ∧ c.n = d.n ∧ c.rounds = d.rounds := by
  have hlist : c.name.toList = d.name.toList := by rw [h]
  rw [Case.toList_name, Case.toList_name, List.append_cancel_left_eq] at hlist
  have halgorithm : c.algorithm = d.algorithm := by
    -- the first letters differ
    rcases hc : c.algorithm with _ | _ <;> rcases hd : d.algorithm with _ | _
    · rfl
    · rw [hc, hd] at hlist
      cases hlist
    · rw [hc, hd] at hlist
      cases hlist
    · rfl
  rw [halgorithm, List.append_cancel_left_eq] at hlist
  obtain ⟨hn, hrounds⟩ := Text.digits_append_inj (not_isDigit_of_mem_head?_roundsText c.rounds)
    (not_isDigit_of_mem_head?_roundsText d.rounds) (List.cons.inj hlist).2
  exact ⟨halgorithm, UInt32.toNat_inj.mp hn, roundsText_inj hrounds⟩

theorem Case.newline_notMem_name (c : Case) : '\n' ∉ c.name.toList := by
  have hrounds : '\n' ∉ roundsText c.rounds := by
    unfold roundsText
    rcases c.rounds with _ | rounds
    · simp
    · simp [newline_notMem_digits]
  have halgorithm : '\n' ∉ c.algorithm.name.toList := by
    rcases c.algorithm with _ | _ <;> decide
  rw [Case.toList_name]
  simp [newline_notMem_digits, hrounds, halgorithm]

/-! ## Cases -/

/-- Every round gives the same, so the last one gives what one alone would; what stands
before the first is gone. -/
theorem repeated_succ (f : Evaluator) (n : UInt32) (rounds : ℕ)
    (outcome : Except EvalError UInt64) : repeated f n (rounds + 1) outcome = f n := by
  induction rounds generalizing outcome with
  | zero =>
    rw [repeated]
    rcases f n with cause | value <;> rfl
  | succ rounds ih =>
    rw [repeated]
    rcases hvalue : f n with cause | value
    · rfl
    · exact (ih (.ok value)).trans hvalue

theorem evaluated_eq {rounds : Option ℕ} (h : rounds ≠ some 0) (f : Evaluator) (n : UInt32) :
    evaluated f n rounds = f n := by
  rcases rounds with _ | _ | rounds
  · rfl
  · exact absurd rfl h
  · exact repeated_succ f n rounds (.ok 0)

/-- A case that runs at all, and whose known value is the number at its index. -/
structure Case.Sound (c : Case) : Prop where
  runs : c.rounds ≠ some 0
  expected_eq : c.expected.toNat = Nat.fib c.n.toNat

theorem Case.Sound.run_eq {c : Case} (h : c.Sound) : c.run = .ok c.expected := by
  have hfits : Nat.fib c.n.toNat ≤ 2 ^ 64 - 1 := by
    rw [← h.expected_eq]
    exact Nat.le_sub_one_of_lt c.expected.toNat_lt
  unfold Case.run
  rw [evaluated_eq h.runs, Algorithm.evaluate_eq, if_pos hfits, ← h.expected_eq,
    UInt64.ofNat_toNat]

/-- The name of a sound case tells all of it. -/
theorem Case.Sound.eq_of_name_eq {c d : Case} (hc : c.Sound) (hd : d.Sound)
    (h : c.name = d.name) : c = d := by
  obtain ⟨halgorithm, hn, hrounds⟩ := Case.name_inj h
  have hexpected : c.expected = d.expected := by
    apply UInt64.toNat_inj.mp
    rw [hc.expected_eq, hd.expected_eq, hn]
  obtain ⟨_, _, _, _⟩ := c
  obtain ⟨_, _, _, _⟩ := d
  dsimp only at halgorithm hn hrounds hexpected
  rw [halgorithm, hn, hrounds, hexpected]

/-! ## The suite -/

/-- All cases, in order. -/
def allCases : List Case := naiveCases ++ iterativeCases ++ [naiveRepeated] ++ [iterativeRepeated]

theorem sound_of_mem_allCases {c : Case} (h : c ∈ allCases) : c.Sound := by
  have htable : ∀ c ∈ allCases, c.rounds ≠ some 0 ∧ c.expected.toNat = Nat.fib c.n.toNat := by
    decide +kernel
  obtain ⟨hruns, hexpected⟩ := htable c h
  exact ⟨hruns, hexpected⟩

theorem suite_sublist_allCases (maxNaive : UInt32) : (suite maxNaive).Sublist allCases := by
  unfold suite allCases
  exact ((List.filter_sublist.append_right _).append List.filter_sublist).append_right _

theorem sound_of_mem_suite {maxNaive : UInt32} {c : Case} (h : c ∈ suite maxNaive) : c.Sound :=
  sound_of_mem_allCases ((suite_sublist_allCases maxNaive).subset h)

theorem suite_sublist_suite {maxNaive more : UInt32} (h : maxNaive ≤ more) :
    (suite maxNaive).Sublist (suite more) := by
  have hfilter : ∀ cases : List Case,
      (cases.filter (·.n ≤ maxNaive)).Sublist (cases.filter (·.n ≤ more)) := by
    intro cases
    apply List.monotone_filter_right
    intro c hc
    simp only [decide_eq_true_eq] at hc ⊢
    exact UInt32.le_trans hc h
  unfold suite
  exact (((hfilter _).append_right _).append (hfilter _)).append_right _

/-- The names of the cases, in order. -/
def suiteNames (maxNaive : UInt32) : List String := (suite maxNaive).map Case.name

theorem nodup_suiteNames (maxNaive : UInt32) : (suiteNames maxNaive).Nodup := by
  have hnodup : (suite maxNaive).Nodup :=
    (suite_sublist_allCases maxNaive).nodup (by decide +kernel)
  refine List.Nodup.map_on ?_ hnodup
  intro c hc d hd hname
  exact (sound_of_mem_suite hc).eq_of_name_eq (sound_of_mem_suite hd) hname

theorem mem_suite_iff {maxNaive : UInt32} {c : Case} :
    c ∈ suite maxNaive
      ↔ (c ∈ naiveCases ∨ c = naiveRepeated) ∧ c.n ≤ maxNaive
        ∨ c ∈ iterativeCases ∨ c = iterativeRepeated := by
  unfold suite
  simp only [List.mem_append, List.mem_filter, List.mem_singleton, decide_eq_true_eq]
  tauto

/-- A name is there if a case with its algorithm, index and rounds is. -/
theorem name_mem_suiteNames_iff {maxNaive : UInt32} {c : Case} :
    c.name ∈ suiteNames maxNaive
      ↔ ∃ d ∈ suite maxNaive, d.algorithm = c.algorithm ∧ d.n = c.n ∧ d.rounds = c.rounds := by
  unfold suiteNames
  rw [List.mem_map]
  constructor
  · rintro ⟨d, hd, hname⟩
    exact ⟨d, hd, Case.name_inj hname⟩
  · rintro ⟨d, hd, halgorithm, hn, hrounds⟩
    refine ⟨d, hd, ?_⟩
    unfold Case.name
    rw [halgorithm, hn, hrounds]

/-- A recursive case that is not repeated is there if it is in the table and its index is
not above the bound. -/
theorem naive_mem_suiteNames_iff (maxNaive k : UInt32) :
    "fib-naive-" ++ toString k.toNat ∈ suiteNames maxNaive
      ↔ k ∈ naiveCases.map Case.n ∧ k ≤ maxNaive := by
  have hname : "fib-naive-" ++ toString k.toNat = (Case.mk .naive k 0 none).name := by
    rw [Case.name, Text.numeral_eq_toString, String.append_empty]
    rfl
  have hplain : ∀ c ∈ naiveCases, c.algorithm = .naive ∧ c.rounds = none := by decide
  have hother : ∀ c ∈ iterativeCases, c.algorithm ≠ .naive := by decide
  rw [hname, name_mem_suiteNames_iff]
  constructor
  · rintro ⟨c, hc, halgorithm, rfl, hrounds⟩
    rcases mem_suite_iff.mp hc with ⟨hc | rfl, hle⟩ | hc | rfl
    · exact ⟨List.mem_map_of_mem hc, hle⟩
    · cases hrounds
    · exact absurd halgorithm (hother c hc)
    · cases halgorithm
  · rintro ⟨hk, hle⟩
    obtain ⟨c, hc, rfl⟩ := List.mem_map.mp hk
    obtain ⟨halgorithm, hrounds⟩ := hplain c hc
    exact ⟨c, mem_suite_iff.mpr (.inl ⟨.inl hc, hle⟩), halgorithm, rfl, hrounds⟩

theorem naiveRepeated_mem_suiteNames_iff (maxNaive : UInt32) :
    "fib-naive-20-x1000" ∈ suiteNames maxNaive ↔ 20 ≤ maxNaive := by
  have hname : naiveRepeated.name = "fib-naive-20-x1000" := by
    simp only [Case.name, naiveRepeated, Text.numeral_eq_toString]
    decide +kernel
  have hplain : ∀ c ∈ naiveCases ++ iterativeCases, c.rounds = none := by decide
  rw [← hname, name_mem_suiteNames_iff]
  constructor
  · rintro ⟨c, hc, halgorithm, -, hrounds⟩
    rcases mem_suite_iff.mp hc with ⟨hc | rfl, hle⟩ | hc | rfl
    · rw [hplain c (List.mem_append_left _ hc)] at hrounds
      cases hrounds
    · exact hle
    · rw [hplain c (List.mem_append_right _ hc)] at hrounds
      cases hrounds
    · cases halgorithm
  · intro hle
    exact ⟨naiveRepeated, mem_suite_iff.mpr (.inl ⟨.inr rfl, hle⟩), rfl, rfl, rfl⟩

theorem iterative_mem_suiteNames (maxNaive : UInt32) {name : String}
    (h : name ∈ ["fib-iterative-30", "fib-iterative-50", "fib-iterative-70", "fib-iterative-93",
      "fib-iterative-20-x1000"]) : name ∈ suiteNames maxNaive := by
  have hnames : (iterativeCases ++ [iterativeRepeated]).map Case.name
      = ["fib-iterative-30", "fib-iterative-50", "fib-iterative-70", "fib-iterative-93",
        "fib-iterative-20-x1000"] := by
    simp only [iterativeCases, iterativeRepeated, List.cons_append, List.nil_append,
      List.map_cons, List.map_nil, Case.name, Text.numeral_eq_toString]
    decide +kernel
  rw [← hnames] at h
  obtain ⟨c, hc, rfl⟩ := List.mem_map.mp h
  apply List.mem_map_of_mem
  rw [mem_suite_iff]
  right
  simpa using hc

/-! ## Results -/

/-- The result tells of the number at an index: it came out, it was expected, and it
stands on the line. -/
structure Result.TellsOf (r : Result) (k : UInt32) : Prop where
  expected_eq : r.expected.toNat = Nat.fib k.toNat
  outcome_eq : r.outcome = .ok r.expected
  line_eq : r.line = "BENCH:fibonacci:" ++ r.name ++ ":" ++ toString (Nat.fib k.toNat) ++ ":"
    ++ toString r.elapsed

theorem Result.TellsOf.passed {r : Result} {k : UInt32} (h : r.TellsOf k) : r.passed = true := by
  rw [Result.passed, h.outcome_eq]
  exact beq_self_eq_true r.expected

theorem Result.line_of_ok {r : Result} {value : UInt64} (h : r.outcome = .ok value) :
    r.line = "BENCH:fibonacci:" ++ r.name ++ ":" ++ Text.numeral value.toNat ++ ":"
      ++ Text.numeral r.elapsed := by
  have htext : r.outcomeText = Text.numeral value.toNat := by
    change Benchmark.outcomeText r.outcome = _
    rw [h]
    rfl
  rw [← htext]
  rfl

theorem Result.newline_notMem_line {r : Result} {value : UInt64} (hvalue : r.outcome = .ok value)
    (hname : '\n' ∉ r.name.toList) : '\n' ∉ r.line.toList := by
  have hbench : '\n' ∉ "BENCH:fibonacci:".toList := by decide
  rw [Result.line_of_ok hvalue]
  simp only [String.toList_append, List.mem_append, Text.toList_numeral, newline_notMem_digits,
    hname, hbench, false_or, or_false]
  decide

end Benchmark

namespace Program

open Benchmark (Case Result suite suiteNames)

theorem tellsOf_resultAt {c : Case} (h : c.Sound) (nanoseconds : ℕ) :
    (resultAt c nanoseconds).TellsOf c.n := by
  refine ⟨h.expected_eq, h.run_eq, ?_⟩
  rw [Result.line_of_ok h.run_eq, h.expected_eq, Text.numeral_eq_toString,
    Text.numeral_eq_toString]

theorem map_name_resultsAt (cases : List Case) (times : List ℕ) :
    (resultsAt cases times).map Result.name = cases.map Case.name := by
  induction cases generalizing times with
  | nil => rfl
  | cons c cases ih =>
    rw [resultsAt, List.map_cons, List.map_cons, ih]
    rfl

theorem exists_of_mem_resultsAt {cases : List Case} {times : List ℕ} {r : Result}
    (h : r ∈ resultsAt cases times) : ∃ c ∈ cases, ∃ nanoseconds, r = resultAt c nanoseconds := by
  induction cases generalizing times with
  | nil => cases h
  | cons c cases ih =>
    rcases List.mem_cons.mp h with rfl | h
    · exact ⟨c, List.mem_cons_self, _, rfl⟩
    · obtain ⟨d, hd, hr⟩ := ih h
      exact ⟨d, List.mem_cons_of_mem c hd, hr⟩

theorem tellsOf_of_mem_suiteResults {maxNaive : UInt32} {times : List ℕ} {r : Result}
    (h : r ∈ suiteResults maxNaive times) :
    ∃ c ∈ suite maxNaive, r.name = c.name ∧ r.TellsOf c.n := by
  obtain ⟨c, hc, nanoseconds, rfl⟩ := exists_of_mem_resultsAt h
  exact ⟨c, hc, rfl, tellsOf_resultAt (Benchmark.sound_of_mem_suite hc) nanoseconds⟩

theorem passed_of_mem_suiteResults {maxNaive : UInt32} {times : List ℕ} {r : Result}
    (h : r ∈ suiteResults maxNaive times) : r.passed = true := by
  obtain ⟨c, -, -, htells⟩ := tellsOf_of_mem_suiteResults h
  exact htells.passed

theorem newline_notMem_line_of_mem_suiteResults {maxNaive : UInt32} {times : List ℕ} {r : Result}
    (h : r ∈ suiteResults maxNaive times) : '\n' ∉ r.line.toList := by
  obtain ⟨c, -, hname, htells⟩ := tellsOf_of_mem_suiteResults h
  apply Result.newline_notMem_line htells.outcome_eq
  rw [hname]
  exact c.newline_notMem_name

/-! ## What is printed -/

theorem suiteFailure_of_passed {results : List Result} (h : ∀ r ∈ results, r.passed = true) :
    suiteFailure false results = none := by
  have hcount : results.countP (!·.passed) = 0 := by
    rw [List.countP_eq_zero]
    intro r hr
    simp [h r hr]
  rw [suiteFailure, hcount]
  rfl

theorem suiteLines_of_passed {results : List Result} (h : ∀ r ∈ results, r.passed = true) :
    suiteLines false results = results.map fun r => .printed (r.line ++ "\n") := by
  change results.flatMap linesOf = _
  rw [List.map_eq_flatMap]
  apply List.flatMap_congr
  intro r hr
  rw [linesOf, if_pos (h r hr)]

/-- What a benchmark comes to where standard output takes its lines. -/
theorem suiteUpshot_of_open (libraries : Libraries) {w : World} (takes : w.outputFull = false)
    (maxNaive : UInt32) :
    suiteUpshot libraries w maxNaive
      = { status := succeeded
          files := w.files
          times := w.times.drop (suite maxNaive).length
          effects := (suiteResults maxNaive w.times).map fun r => .printed (r.line ++ "\n") } := by
  have hpassed : ∀ r ∈ suiteResults maxNaive w.times, r.passed = true := by
    intro r hr
    exact passed_of_mem_suiteResults hr
  unfold suiteUpshot
  rw [takes, suiteFailure_of_passed hpassed, suiteLines_of_passed hpassed, told, List.append_nil]
  rfl

end Program

/-! ## The command line -/

namespace Command

theorem Argument.of_eq_word {text : String} {first : Char} {more : List Char}
    (htext : text.toList = first :: more) (hfirst : first ≠ '-') : Argument.of text = .word := by
  unfold Argument.of
  rw [htext]
  split <;> simp_all

namespace BenchArgs

theorem addDigit_digitChar {value n : ℕ} (h : value * 10 + n % 10 < 0x8000000000000000) :
    addDigit false value (Text.digitChar n) = .ok (value * 10 + n % 10) := by
  unfold addDigit
  rw [Text.isDigit_digitChar, Text.digitValue_digitChar]
  exact if_pos h

/-- The digits of a number that fits are taken in one by one; each number on the way is a
part of the one that is read, so it fits too. -/
theorem foldlM_addDigit_digits {n : ℕ} (h : n < 0x8000000000000000) :
    (Text.digits n).foldlM (addDigit false) 0 = .ok n := by
  fun_induction Text.digits n with
  | case1 n hn =>
    change (addDigit false 0 (Text.digitChar n) >>= pure) = .ok n
    rw [bind_pure, addDigit_digitChar (by omega), Nat.mod_eq_of_lt hn, Nat.zero_mul, Nat.zero_add]
  | case2 n hn ih =>
    rw [List.foldlM_append, ih (by omega)]
    change (addDigit false (n / 10) (Text.digitChar n) >>= pure) = .ok n
    rw [bind_pure, addDigit_digitChar (by omega), Nat.div_add_mod']

theorem readInteger_digits {n : ℕ} (h : n < 0x8000000000000000) :
    readInteger (Text.digits n) = .ok (n : ℤ) := by
  have hread : readDigits false (Text.digits n) = .ok (n : ℤ) := by
    rw [readDigits, if_neg (Text.digits_ne_nil n), foldlM_addDigit_digits h]
    rfl
  obtain ⟨first, more, hdigits, hfirst⟩ := Text.head_digits n
  have hminus : first ≠ '-' := Text.ne_of_class hfirst (by decide)
  have hplus : first ≠ '+' := Text.ne_of_class hfirst (by decide)
  rw [← hread, hdigits]
  unfold readInteger
  split <;> simp_all

/-- The numeral of an index of thirty-two bits is an acceptable bound. -/
theorem fill_maxNaive (maxNaive : UInt32) :
    maxNaiveSlot.fill (toString maxNaive.toNat) {} = .ok { maxNaive := some maxNaive } := by
  have hlt : maxNaive.toNat < UInt32.size := maxNaive.toNat_lt_size
  have hread : readInteger (toString maxNaive.toNat).toList = .ok (maxNaive.toNat : ℤ) := by
    rw [← Text.numeral_eq_toString, Text.toList_numeral]
    exact readInteger_digits (hlt.trans (by decide))
  have hrange : 0 ≤ (maxNaive.toNat : ℤ) ∧ (maxNaive.toNat : ℤ) < UInt32.size := by
    omega
  change maxNaiveSlot.store (toString maxNaive.toNat) {} = _
  unfold maxNaiveSlot
  dsimp only
  rw [hread]
  dsimp only
  rw [if_pos hrange, Int.toNat_natCast]
  simp

theorem read_maxNaive (maxNaive : UInt32) :
    grammar.read {} ["--max-naive", toString maxNaive.toNat]
      = .ok { maxNaive := some maxNaive } := by
  obtain ⟨first, more, hdigits, hfirst⟩ := Text.head_digits maxNaive.toNat
  have htext : (toString maxNaive.toNat).toList = first :: more := by
    rw [← Text.numeral_eq_toString, Text.toList_numeral, hdigits]
  have hword : Argument.of (toString maxNaive.toNat) = .word :=
    Argument.of_eq_word htext (Text.ne_of_class hfirst (by decide))
  have hoption : grammar.step (State.initial {}) "--max-naive"
      = .ok ⟨{}, .awaited maxNaiveSlot, false, false⟩ := by
    rfl
  have hvalue : grammar.step ⟨{}, .awaited maxNaiveSlot, false, false⟩ (toString maxNaive.toNat)
      = .ok ⟨{}, .held maxNaiveSlot (toString maxNaive.toNat), false, false⟩ := by
    rw [Grammar.step, hword]
    rfl
  have hsteps : ["--max-naive", toString maxNaive.toNat].foldlM grammar.step (State.initial {})
      = .ok ⟨{}, .held maxNaiveSlot (toString maxNaive.toNat), false, false⟩ := by
    rw [List.foldlM_cons, hoption]
    change (grammar.step _ (toString maxNaive.toNat) >>= pure) = _
    rw [hvalue]
    rfl
  have hsettle : State.settle
      ⟨({} : BenchArgs), .held maxNaiveSlot (toString maxNaive.toNat), false, false⟩
      = .ok ⟨{ maxNaive := some maxNaive }, .none, false, false⟩ := by
    rw [State.settle]
    dsimp only
    rw [fill_maxNaive]
  unfold Grammar.read
  rw [hsteps]
  dsimp only [bind, Except.bind]
  rw [hsettle]

end BenchArgs

theorem Invocation.parse_bench (maxNaive : UInt32) :
    Invocation.parse ["bench", "--max-naive", toString maxNaive.toNat]
      = .ok (.bench maxNaive) := by
  change readCommand .bench BenchArgs.grammar {} ["--max-naive", toString maxNaive.toNat] _ = _
  unfold readCommand
  rw [BenchArgs.read_maxNaive]
  rfl

end Command

/-! ## Main statement -/

namespace Program

open Benchmark (Result suite suiteNames)

/-- For every bound on the recursion. Whatever the clock gives, the results have the names
of the suite, in order, and each of them passes: the number at the index of its case came
out and was expected. No name is there twice; a recursive case is there exactly if its
index is in the table and within the bound, the repeated one exactly if the bound is at
least twenty, the others always; and a larger bound leaves out no name and changes no
order. So a benchmark with that bound, on a standard output that takes lines, prints one
line for each result, in that order, and nothing but its log besides, and succeeds, where the
filter is read lossily and standard error takes notices. -/
theorem bench_passes_for_every_bound (maxNaive : UInt32) :
    (∀ filter w, ∃ left,
      exec (runSuite filter maxNaive) w = (.ok (suiteResults maxNaive w.times), left))
    ∧ (∀ times, (suiteResults maxNaive times).map Result.name = suiteNames maxNaive
      ∧ ∀ r ∈ suiteResults maxNaive times, r.passed = true
        ∧ ∃ c ∈ suite maxNaive, r.name = c.name ∧ r.TellsOf c.n)
    ∧ (suiteNames maxNaive).Nodup
    ∧ (∀ k : UInt32, "fib-naive-" ++ toString k.toNat ∈ suiteNames maxNaive
        ↔ k ∈ [20, 30, 35, 40] ∧ k ≤ maxNaive)
    ∧ ("fib-naive-20-x1000" ∈ suiteNames maxNaive ↔ 20 ≤ maxNaive)
    ∧ (∀ name ∈ ["fib-iterative-30", "fib-iterative-50", "fib-iterative-70", "fib-iterative-93",
        "fib-iterative-20-x1000"], name ∈ suiteNames maxNaive)
    ∧ (∀ more, maxNaive ≤ more → (suiteNames maxNaive).Sublist (suiteNames more))
    ∧ Command.Invocation.parse ["bench", "--max-naive", toString maxNaive.toNat]
        = .ok (.bench maxNaive)
    ∧ (∀ arguments environment w, Command.Invocation.parse arguments = .ok (.bench maxNaive) →
      environment.libraries.ReadsLossily environment.filter → w.TakesNotices →
      w.outputFull = false →
      statusOf arguments environment w = 0
      ∧ (worldOf arguments environment w).output = w.output
          ++ String.join ((suiteResults maxNaive w.times).map fun r => r.line ++ "\n")
      ∧ (∀ r ∈ suiteResults maxNaive w.times, '\n' ∉ r.line.toList)
      ∧ ∃ logging, (∀ effect ∈ logging, effect.IsLog)
        ∧ (worldOf arguments environment w).effects = w.effects ++ (logging
            ++ (suiteResults maxNaive w.times).map fun r => .printed (r.line ++ "\n"))) := by
  refine ⟨?_, ?_, Benchmark.nodup_suiteNames maxNaive,
    Benchmark.naive_mem_suiteNames_iff maxNaive,
    Benchmark.naiveRepeated_mem_suiteNames_iff maxNaive,
    fun name => Benchmark.iterative_mem_suiteNames maxNaive, ?_,
    Command.Invocation.parse_bench maxNaive, ?_⟩
  · intro filter w
    exact ⟨_, exec_mapM_runCase filter (suite maxNaive) w⟩
  · intro times
    refine ⟨map_name_resultsAt _ times, ?_⟩
    intro r hr
    exact ⟨passed_of_mem_suiteResults hr, tellsOf_of_mem_suiteResults hr⟩
  · intro more hle
    exact (Benchmark.suite_sublist_suite hle).map _
  · intro arguments environment w parsed lossy notices takes
    obtain ⟨filter, started⟩ := exists_start_eq_ok notices lossy
    have hcomes := comesTo_of_bench parsed started
    rw [suiteUpshot_of_open environment.libraries takes] at hcomes
    refine ⟨hcomes.statusOf_eq, ?_, ?_, hcomes.exists_effects_eq⟩
    · rw [hcomes.output_eq, List.filterMap_map, ← List.filterMap_eq_map]
      rfl
    · intro r hr
      exact newline_notMem_line_of_mem_suiteResults hr

/-- Up to thirty the recursion is run at twenty and at thirty, and not at thirty-five. -/
theorem bench_passes_up_to_thirty :
    "fib-naive-30" ∈ suiteNames 30 ∧ "fib-naive-35" ∉ suiteNames 30
    ∧ (suiteNames 30).Sublist (suiteNames 35)
    ∧ statusOf ["bench", "--max-naive", "30"] {} { files := .fresh } = 0
    ∧ (worldOf ["bench", "--max-naive", "30"] {} { files := .fresh }).output
        = String.join ((suiteResults 30 []).map fun r => r.line ++ "\n") := by
  obtain ⟨-, -, -, hnaive, -, -, hmore, hparse, hrun⟩ := bench_passes_for_every_bound 30
  obtain ⟨hstatus, houtput, -, -⟩ := hrun _ {} { files := .fresh } hparse rfl nofun rfl
  refine ⟨(hnaive 30).mpr (by decide), ?_, hmore 35 (by decide), hstatus, ?_⟩
  · intro h
    exact absurd ((hnaive 35).mp h).2 (by decide)
  · have hbefore : ({ files := .fresh } : World).output = "" := rfl
    rw [hbefore, String.empty_append] at houtput
    exact houtput

end Program
end Fibonacci
