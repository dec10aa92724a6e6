/-
Measuring in rounds.

A repeated measurement starts with an outcome that no evaluation has given, overwrites it
round by round, and leaves at the first error. None of this can be seen from outside: it tells
what a single evaluation tells, whatever the evaluator.

`Round` is one round of the repetition, as a step between standings, so that the standings on
the way can be spoken of and not only the last one. What the repetition is going to come to
from a standing does not change from round to round (`Round.repeated_eq`), and so the rounds
end with what the recursion gives and with nothing else (`rounds_end_iff`). That a round
forgets the outcome before it is why the first outcome is gone after one round, and that an
error takes the rounds left with it is why nothing comes after an error.
-/
import Fibonacci.Proofs.Benchmark
import Mathlib.Logic.Function.Iterate
import Mathlib.Logic.Relation

set_option autoImplicit false

namespace Fibonacci

namespace Benchmark

open Relation (ReflTransGen TransGen)

/-! ## One round -/

/-- Where a repetition stands: how many rounds are left, and the outcome so far. -/
structure Standing where
  left : ℕ
  outcome : Except EvalError UInt64

/-- One round of a repetition. An error takes the rounds that are left with it. -/
inductive Round (f : Evaluator) (n : UInt32) : Standing → Standing → Prop
  | value {left : ℕ} {outcome : Except EvalError UInt64} {value : UInt64}
      (gives : f n = .ok value) : Round f n ⟨left + 1, outcome⟩ ⟨left, .ok value⟩
  | error {left : ℕ} {outcome : Except EvalError UInt64} {cause : EvalError}
      (gives : f n = .error cause) : Round f n ⟨left + 1, outcome⟩ ⟨0, .error cause⟩

section
variable {f : Evaluator} {n : UInt32} {s t : Standing}

theorem Round.outcome_eq (h : Round f n s t) : t.outcome = f n := by
  rcases h with gives | gives <;> exact gives.symm

theorem Round.left_eq_zero {cause : EvalError} (h : Round f n s t)
    (herror : t.outcome = .error cause) : t.left = 0 := by
  rcases h with gives | gives
  · cases herror
  · rfl

theorem not_round_of_left_eq_zero (h : s.left = 0) (t : Standing) : ¬ Round f n s t := by
  rintro (gives | gives) <;> cases h

/-- A round does not change what the repetition is going to come to. -/
theorem Round.repeated_eq (h : Round f n s t) :
    repeated f n t.left t.outcome = repeated f n s.left s.outcome := by
  rcases h with gives | gives <;> simp only [repeated, gives]

/-! ## All rounds -/

theorem repeated_eq_of_rounds (h : ReflTransGen (Round f n) s t) :
    repeated f n t.left t.outcome = repeated f n s.left s.outcome := by
  induction h with
  | refl => rfl
  | tail _ hround ih => exact hround.repeated_eq.trans ih

/-- The rounds can be made to the end. -/
theorem rounds_repeated (f : Evaluator) (n : UInt32) (left : ℕ)
    (outcome : Except EvalError UInt64) :
    ReflTransGen (Round f n) ⟨left, outcome⟩ ⟨0, repeated f n left outcome⟩ := by
  induction left generalizing outcome with
  | zero => exact .refl
  | succ left ih =>
    rcases hgives : f n with cause | value
    · have hround : Round f n ⟨left + 1, outcome⟩ ⟨0, .error cause⟩ := .error hgives
      rw [← hround.repeated_eq]
      exact .single hround
    · have hround : Round f n ⟨left + 1, outcome⟩ ⟨left, .ok value⟩ := .value hgives
      rw [← hround.repeated_eq]
      exact .head hround (ih (.ok value))

theorem rounds_end_iff {left : ℕ} {first outcome : Except EvalError UInt64} :
    ReflTransGen (Round f n) ⟨left, first⟩ ⟨0, outcome⟩ ↔ outcome = repeated f n left first := by
  constructor
  · intro h
    exact repeated_eq_of_rounds h
  · rintro rfl
    exact rounds_repeated f n left first

/-- Once a round has been made, its outcome stands: the one before the first round is gone. -/
theorem outcome_eq_of_rounds (h : TransGen (Round f n) s t) : t.outcome = f n := by
  obtain ⟨_, -, hround⟩ := TransGen.tail'_iff.mp h
  exact hround.outcome_eq

/-- A repetition that did not start with an error has no round left when it has one. -/
theorem left_eq_zero_of_error {value : UInt64} {left : ℕ} {cause : EvalError}
    (h : ReflTransGen (Round f n) ⟨left, .ok value⟩ s) (herror : s.outcome = .error cause) :
    s.left = 0 := by
  rcases ReflTransGen.cases_tail h with rfl | ⟨_, -, hround⟩
  · cases herror
  · exact hround.left_eq_zero herror

theorem eq_of_rounds_after_error {value : UInt64} {left : ℕ} {cause : EvalError}
    (h : ReflTransGen (Round f n) ⟨left, .ok value⟩ s) (herror : s.outcome = .error cause)
    (hmore : ReflTransGen (Round f n) s t) : t = s := by
  have hdone : s.left = 0 := left_eq_zero_of_error h herror
  exact (Relation.reflTransGen_iff_eq (not_round_of_left_eq_zero hdone)).mp hmore

end

/-- Without the exit every round would be made, and each would overwrite the outcome. -/
theorem repeated_eq_iterate (f : Evaluator) (n : UInt32) (rounds : ℕ)
    (outcome : Except EvalError UInt64) :
    repeated f n rounds outcome = (fun _ => f n)^[rounds] outcome := by
  rcases rounds with _ | rounds
  · rfl
  · rw [repeated_succ, Function.iterate_succ_apply']

end Benchmark

/-! ## Main statement -/

namespace Program

open Benchmark (Evaluator Result Round repeated)
open Relation (ReflTransGen TransGen)

/-- For every evaluator, name, index and known value, and for every number of rounds but zero.
Measured in that many rounds and measured once, under whatever filters and in whatever worlds,
the name, the outcome, the known value, the text of the outcome and whether it passes are the
same: they are those asked for, with what the evaluator gives at the index. In the rounds
themselves, which end as the repetition does, the outcome before the first is gone from the
first on, whatever it was; no round follows an error; and the repetition comes to the same as
one that makes all its rounds. -/
theorem measure_in_rounds_tells_the_same (f : Evaluator) (name : String) (n : UInt32)
    (expected : UInt64) (rounds : ℕ) (h : 1 ≤ rounds) :
    (∀ (filter other : Log.Filter) (w v : World), ∃ many once : Result,
      (exec (measure filter name n (some rounds) expected f) w).1 = .ok many
      ∧ (exec (measure other name n none expected f) v).1 = .ok once
      ∧ many.name = once.name ∧ many.outcome = once.outcome ∧ many.expected = once.expected
      ∧ many.outcomeText = once.outcomeText ∧ many.passed = once.passed
      ∧ once.name = name ∧ once.outcome = f n ∧ once.expected = expected)
    ∧ (∀ first outcome, ReflTransGen (Round f n) ⟨rounds, first⟩ ⟨0, outcome⟩
        ↔ outcome = repeated f n rounds first)
    ∧ (∀ first s, TransGen (Round f n) ⟨rounds, first⟩ s → s.outcome = f n)
    ∧ (∀ first, repeated f n rounds first = f n)
    ∧ (∀ s cause, ReflTransGen (Round f n) ⟨rounds, .ok 0⟩ s → s.outcome = .error cause →
        ∀ t, ReflTransGen (Round f n) s t → t = s)
    ∧ ∀ first, repeated f n rounds first = (fun _ => f n)^[rounds] first := by
  obtain ⟨more, rfl⟩ : ∃ more, rounds = more + 1 := ⟨rounds - 1, by omega⟩
  refine ⟨?_, ?_, ?_, ?_, ?_, ?_⟩
  · intro filter other w v
    have hrounds : some (more + 1) ≠ some 0 := by simp
    rw [exec_measure, exec_measure, Benchmark.evaluated_eq hrounds]
    -- what is left are two records that differ in their times, and no time is compared
    exact ⟨_, _, rfl, rfl, rfl, rfl, rfl, rfl, rfl, rfl, rfl, rfl⟩
  · intro first outcome
    exact Benchmark.rounds_end_iff
  · intro first s hs
    exact Benchmark.outcome_eq_of_rounds hs
  · intro first
    exact Benchmark.repeated_succ f n more first
  · intro s cause hs herror t ht
    exact Benchmark.eq_of_rounds_after_error hs herror ht
  · intro first
    exact Benchmark.repeated_eq_iterate f n (more + 1) first

/-- A thousand rounds at the first index that is refused, where the outcome before the first
round is the known value: the measurement does not pass. -/
theorem measure_in_rounds_of_refused_index :
    1 ≤ 1000
    ∧ ∃ many : Result,
        (exec (measure Log.defaultFilter "y" 94 (some 1000) 0
          Fibonacci.Evaluator.iterative) { files := .fresh }).1 = .ok many
        ∧ many.name = "y" ∧ many.outcome = .error (.overflow 94) ∧ many.expected = 0
        ∧ many.passed = false := by
  obtain ⟨hsame, -⟩ :=
    measure_in_rounds_tells_the_same Fibonacci.Evaluator.iterative "y" 94 0 1000 (by decide)
  obtain ⟨many, once, hmany, -, hname, houtcome, hexpected, -, hpassed, hy, hgives, hzero⟩ :=
    hsame Log.defaultFilter Log.defaultFilter { files := .fresh }
      { files := .fresh }
  have hrefused : Fibonacci.Evaluator.iterative 94 = .error (.overflow 94) := rfl
  refine ⟨by decide, many, hmany, hname.trans hy, ?_, hexpected.trans hzero, ?_⟩
  · rw [houtcome, hgives, hrefused]
  · rw [hpassed, Result.passed, hgives, hrefused]

-- zero rounds are left out because there the outcome before the first does stand
example (f : Evaluator) (n : UInt32) : Benchmark.evaluated f n (some 0) = .ok 0 := rfl

end Program
end Fibonacci
