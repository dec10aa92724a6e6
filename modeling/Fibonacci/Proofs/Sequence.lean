/-
The evaluators against the Fibonacci sequence.

The words of the evaluators wrap, so before any range check both of them give the
Fibonacci number modulo `2 ^ 64`, at every index: `recursive_eq_ofNat` for the double
recursion and `Window.after_eq_ofNat` for the sliding window. The rest is where the
wrapping starts. The sequence is monotone, the number at 93 is the last below
`2 ^ 64`, and so the range check lets through exactly the indices at which nothing
wraps (`checkRange_eq`).

"Nothing wraps" is meant of every addition on the way and not only of the result.
The additions of the recursion are those of its calls, and `Subcall` is the relation
between an index and the indices at which the recursion is called below it; the
additions of the window are those of its moves. Each of them computes a term of the
sequence at or below the index asked for, which is why monotonicity is enough.
-/
import Fibonacci.Algorithm
import Mathlib.Data.Nat.Fib.Basic
import Mathlib.Order.Bounds.Basic
import Mathlib.Tactic.NormNum.NatFib

set_option autoImplicit false

namespace Fibonacci.Evaluator

/-! ## Both evaluators modulo the word -/

/-- The double recursion gives the Fibonacci number modulo `2 ^ 64`. The induction is
that of the definition, one case for each base and one for the two smaller indices. -/
theorem recursive_eq_ofNat (n : ℕ) : recursive n = UInt64.ofNat (Nat.fib n) := by
  fun_induction recursive n with
  | case1 => rfl
  | case2 => rfl
  | case3 n ih₁ ih₂ =>
    rw [ih₁, ih₂, ← UInt64.ofNat_add, Nat.fib_add_two, Nat.add_comm]

/-- After `moves` moves the window shows the terms at `moves` and `moves + 1`, modulo
`2 ^ 64`: the invariant of the two accumulators. -/
theorem Window.after_eq_ofNat (moves : ℕ) :
    Window.after moves
      = ⟨UInt64.ofNat (Nat.fib moves), UInt64.ofNat (Nat.fib (moves + 1))⟩ := by
  induction moves with
  | zero => rfl
  | succ moves ih =>
    rw [Window.after_succ, ih, Window.next, ← UInt64.ofNat_add, ← Nat.fib_add_two]

/-- A natural number below `2 ^ 64` survives the word. -/
theorem toNat_ofNat_of_le {k : ℕ} (h : k ≤ 2 ^ 64 - 1) : (UInt64.ofNat k).toNat = k := by
  have hk : k < UInt64.size := by
    change k < 2 ^ 64
    omega
  exact UInt64.toNat_ofNat_of_lt' hk

/-! ## The exact cut -/

/-- The indices whose Fibonacci number fits in sixty-four bits are those up to
`maxIndex`. Two numerals decide it, at 93 and at 94; monotonicity does the rest. -/
theorem fib_le_iff (k : ℕ) : Nat.fib k ≤ 2 ^ 64 - 1 ↔ k ≤ maxIndex.toNat := by
  have hmax : maxIndex.toNat = 93 := rfl
  have hfits : Nat.fib 93 ≤ 2 ^ 64 - 1 := by norm_num
  have hover : 2 ^ 64 - 1 < Nat.fib 94 := by norm_num
  rw [hmax]
  constructor
  · intro h
    -- from 94 on every number is at least the one at 94, which is already too large
    by_contra hk
    have hmono : Nat.fib 94 ≤ Nat.fib k := Nat.fib_mono (by omega)
    omega
  · intro h
    exact le_trans (Nat.fib_mono h) hfits

/-- `maxIndex` is the largest index whose Fibonacci number fits. -/
theorem isGreatest_maxIndex :
    IsGreatest {k : ℕ | Nat.fib k ≤ 2 ^ 64 - 1} maxIndex.toNat :=
  ⟨(fib_le_iff _).mpr le_rfl, fun k hk => (fib_le_iff k).mp hk⟩

/-- The range check asks whether the Fibonacci number fits. -/
theorem checkRange_eq (n : UInt32) :
    checkRange n
      = if Nat.fib n.toNat ≤ 2 ^ 64 - 1 then .ok () else .error (.overflow n.toUInt64) := by
  have hgt : n > maxIndex ↔ ¬ Nat.fib n.toNat ≤ 2 ^ 64 - 1 := by
    rw [fib_le_iff, not_le]
    exact UInt32.lt_iff_toNat_lt
  unfold checkRange
  by_cases h : Nat.fib n.toNat ≤ 2 ^ 64 - 1
  · rw [if_neg (by rw [hgt]; exact not_not.mpr h), if_pos h]
  · rw [if_pos (hgt.mpr h), if_neg h]

/-! ## The entry points -/

/-- The answer by the double recursion. -/
theorem naive_eq (n : UInt32) :
    naive n
      = if Nat.fib n.toNat ≤ 2 ^ 64 - 1 then .ok (UInt64.ofNat (Nat.fib n.toNat))
        else .error (.overflow n.toUInt64) := by
  unfold naive
  rw [checkRange_eq, recursive_eq_ofNat]
  split <;> rfl

/-- The answer by the sliding window. Below two it is the index itself; from two on
the last move brings the term at the index into the later place. -/
theorem iterative_eq (n : UInt32) :
    iterative n
      = if Nat.fib n.toNat ≤ 2 ^ 64 - 1 then .ok (UInt64.ofNat (Nat.fib n.toNat))
        else .error (.overflow n.toUInt64) := by
  have hanswer : (if n < 2 then n.toUInt64 else (Window.after (n.toNat - 1)).current)
      = UInt64.ofNat (Nat.fib n.toNat) := by
    by_cases h : n < 2
    · -- the window never moves: the index is returned as it is, and zero and one are
      -- the two indices that are their own Fibonacci numbers
      have hn : n.toNat < 2 := UInt32.lt_iff_toNat_lt.mp h
      have hfib : Nat.fib n.toNat = n.toNat := by
        rcases Nat.lt_or_ge n.toNat 1 with h0 | h1
        · rw [show n.toNat = 0 by omega]; rfl
        · rw [show n.toNat = 1 by omega]; rfl
      rw [if_pos h, hfib]
      exact UInt64.toNat_inj.mp (by simp)
    · have hn : 2 ≤ n.toNat := by
        rw [UInt32.lt_iff_toNat_lt, not_lt] at h
        exact h
      rw [if_neg h, Window.after_eq_ofNat, show n.toNat - 1 + 1 = n.toNat by omega]
  unfold iterative
  rw [checkRange_eq]
  split
  · rw [← hanswer]
    split <;> rfl
  · rfl

/-- An index with an answer fits. Both entry points answer by the same rule, so this
is said of the rule. -/
theorem fits_of_eq_ok {n : UInt32} {value : UInt64}
    (h : (if Nat.fib n.toNat ≤ 2 ^ 64 - 1 then Except.ok (UInt64.ofNat (Nat.fib n.toNat))
      else .error (EvalError.overflow n.toUInt64)) = .ok value) :
    Nat.fib n.toNat ≤ 2 ^ 64 - 1 := by
  by_contra hover
  rw [if_neg hover] at h
  cases h

/-! ## The additions on the way -/

/-- The recursion asked for `n` calls itself at `m`, at some depth: it is the call
itself, or one of the two calls of a call that does not end at a base. -/
inductive Subcall (n : ℕ) : ℕ → Prop
  | self : Subcall n n
  | first {m : ℕ} (above : Subcall n (m + 2)) : Subcall n (m + 1)
  | second {m : ℕ} (above : Subcall n (m + 2)) : Subcall n m

/-- No call is at a larger index than the one asked for. -/
theorem Subcall.le {n m : ℕ} (h : Subcall n m) : m ≤ n := by
  induction h with
  | self => exact le_rfl
  | first _ ih => omega
  | second _ ih => omega

/-- Two consecutive terms are added without wrapping where their sum is a term that
fits. Both evaluators add nothing else. -/
theorem sum_le_of_fits {k m : ℕ} (hk : Nat.fib k ≤ 2 ^ 64 - 1) (hm : m + 2 ≤ k) :
    (UInt64.ofNat (Nat.fib m)).toNat + (UInt64.ofNat (Nat.fib (m + 1))).toNat
      ≤ 2 ^ 64 - 1 := by
  have hsum : Nat.fib m + Nat.fib (m + 1) ≤ Nat.fib k := by
    rw [← Nat.fib_add_two]
    exact Nat.fib_mono hm
  rw [toNat_ofNat_of_le (by omega), toNat_ofNat_of_le (by omega)]
  omega

/-- At an index that fits, no addition of the recursion wraps, at any depth. -/
theorem Subcall.sum_le {n m : ℕ} (hn : Nat.fib n ≤ 2 ^ 64 - 1) (h : Subcall n (m + 2)) :
    (recursive (m + 1)).toNat + (recursive m).toNat ≤ 2 ^ 64 - 1 := by
  rw [recursive_eq_ofNat, recursive_eq_ofNat, Nat.add_comm]
  exact sum_le_of_fits hn h.le

/-- At an index that fits, no move of the window towards it wraps. -/
theorem Window.sum_le {n move : ℕ} (hn : Nat.fib n ≤ 2 ^ 64 - 1) (h : move + 1 < n) :
    (Window.after move).previous.toNat + (Window.after move).current.toNat
      ≤ 2 ^ 64 - 1 := by
  rw [Window.after_eq_ofNat]
  exact sum_le_of_fits hn h

end Fibonacci.Evaluator

namespace Fibonacci

open Evaluator

/-- The answer by either algorithm. -/
theorem Algorithm.evaluate_eq (a : Algorithm) (n : UInt32) :
    a.evaluate n
      = if Nat.fib n.toNat ≤ 2 ^ 64 - 1 then .ok (UInt64.ofNat (Nat.fib n.toNat))
        else .error (.overflow n.toUInt64) := by
  cases a with
  | naive => exact naive_eq n
  | iterative => exact iterative_eq n

/-! ## Main statement -/

/-- Either algorithm gives the Fibonacci number where it fits in sixty-four bits and
names the index in an overflow error where it does not; so the two agree on every
index. The largest index let through is the largest whose number fits, and up to it no
addition wraps: not in the recursion, whichever call makes it, and not in the window,
the last move included. -/
theorem Algorithm.evaluate_eq_fib_without_wrapping (n : UInt32) :
    (∀ a : Algorithm, a.evaluate n
      = if Nat.fib n.toNat ≤ 2 ^ 64 - 1 then .ok (UInt64.ofNat (Nat.fib n.toNat))
        else .error (.overflow n.toUInt64))
    ∧ Evaluator.naive n = Evaluator.iterative n
    ∧ IsGreatest {k : ℕ | Nat.fib k ≤ 2 ^ 64 - 1} maxIndex.toNat
    ∧ (∀ value, Evaluator.naive n = .ok value → ∀ m, Subcall n.toNat (m + 2) →
        (recursive (m + 1)).toNat + (recursive m).toNat ≤ 2 ^ 64 - 1)
    ∧ (∀ value, Evaluator.iterative n = .ok value → ∀ move, move + 1 < n.toNat →
        (Window.after move).previous.toNat + (Window.after move).current.toNat
          ≤ 2 ^ 64 - 1) := by
  refine ⟨fun a => a.evaluate_eq n, ?_, isGreatest_maxIndex, ?_, ?_⟩
  · rw [naive_eq, iterative_eq]
  · intro value hvalue m hm
    exact hm.sum_le (fits_of_eq_ok (naive_eq n ▸ hvalue))
  · intro value hvalue move hmove
    exact Window.sum_le (fits_of_eq_ok (iterative_eq n ▸ hvalue)) hmove

/-- At 93 the recursion would take some `10 ^ 19` calls; its answer and its last
addition are known without making them. -/
theorem Algorithm.evaluate_naive_ninety_three :
    Algorithm.naive.evaluate 93 = .ok 12200160415121876738
    ∧ (recursive 92).toNat + (recursive 91).toNat ≤ 2 ^ 64 - 1 := by
  have hall := Algorithm.evaluate_eq_fib_without_wrapping 93
  have hfib : Nat.fib (93 : UInt32).toNat = 12200160415121876738 := by
    change Nat.fib 93 = _
    norm_num
  have hvalue : Algorithm.naive.evaluate 93 = .ok 12200160415121876738 := by
    rw [hall.1 .naive, hfib, if_pos (by norm_num)]
    rfl
  have hself : Subcall (93 : UInt32).toNat (91 + 2) := .self
  -- `91 + 1` is made `92` by `simp`: left to unification, the recursion would be run
  have hsum := hall.2.2.2.1 _ hvalue 91 hself
  exact ⟨hvalue, by simpa only [Nat.reduceAdd] using hsum⟩

end Fibonacci
