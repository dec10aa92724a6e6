/-
The order of the calls.

One counter goes through the whole recursion, and each call hands it first to the sub-call
at the larger index. Nothing comes of this order. What a call adds to the counter depends on
its index alone, not on what it finds there, and the two amounts are added in words, where
sums can be turned round whether they wrap or not.

`Runs` leaves the order open: every call, at whatever depth, makes its two sub-calls in the
one order or the other. All runs from one counter have the tally of the recursion
(`runs_iff`), and so its value, which is that of the recursion without a counter.
-/
import Fibonacci.Proofs.CallCount

set_option autoImplicit false

namespace Fibonacci.Evaluator

/-! ## Runs in any order -/

/-- The recursion at `n`, from the counter on, can end with the tally, if each call chooses
which of its sub-calls it makes first. -/
inductive Runs : ℕ → UInt64 → Tally → Prop
  | zero {counter : UInt64} : Runs 0 counter ⟨0, counter + 1⟩
  | one {counter : UInt64} : Runs 1 counter ⟨1, counter + 1⟩
  | largerFirst {n : ℕ} {counter : UInt64} {larger smaller : Tally}
      (first : Runs (n + 1) (counter + 1) larger) (second : Runs n larger.calls smaller) :
      Runs (n + 2) counter ⟨larger.value + smaller.value, smaller.calls⟩
  | smallerFirst {n : ℕ} {counter : UInt64} {larger smaller : Tally}
      (first : Runs n (counter + 1) smaller) (second : Runs (n + 1) smaller.calls larger) :
      Runs (n + 2) counter ⟨larger.value + smaller.value, larger.calls⟩

/-- The recursion itself is one of the runs. -/
theorem runs_recursiveFrom (n : ℕ) (counter : UInt64) :
    Runs n counter (recursiveFrom n counter) := by
  fun_induction recursiveFrom n counter with
  | case1 counter => exact .zero
  | case2 counter => exact .one
  | case3 n counter larger smaller ihlarger ihsmaller => exact .largerFirst ihlarger ihsmaller

/-- Smaller index first: both amounts are added all the same. -/
theorem recursiveFrom_smaller_first (n : ℕ) (counter : UInt64) :
    (recursiveFrom (n + 1) (recursiveFrom n (counter + 1)).calls).calls
      = (recursiveFrom (n + 2) counter).calls := by
  rw [recursiveFrom_eq n, recursiveFrom_eq (n + 1), recursiveFrom_eq (n + 2),
    ← counter_add_two]
  dsimp only
  rw [UInt64.add_assoc (counter + 1), UInt64.add_comm (UInt64.ofNat (callCount n)),
    ← UInt64.add_assoc]

/-- Every run ends as the recursion does. The induction is on the run, and each step of it is
one call with its order. -/
theorem Runs.eq_recursiveFrom {n : ℕ} {counter : UInt64} {tally : Tally}
    (h : Runs n counter tally) : tally = recursiveFrom n counter := by
  induction h with
  | zero => rfl
  | one => rfl
  | largerFirst _ _ ihlarger ihsmaller =>
    rw [ihlarger] at ihsmaller ⊢
    rw [ihsmaller]
    rfl
  | @smallerFirst n counter larger smaller _ _ ihsmaller ihlarger =>
    have hcalls : larger.calls = (recursiveFrom (n + 2) counter).calls := by
      rw [ihlarger, ihsmaller, recursiveFrom_smaller_first]
    have hvalue : larger.value + smaller.value = (recursiveFrom (n + 2) counter).value := by
      -- the values do not depend on the counters that the sub-calls have found
      rw [ihlarger, ihsmaller, recursiveFrom_eq n, recursiveFrom_eq (n + 1),
        recursiveFrom_eq (n + 2), ← UInt64.ofNat_add, Nat.fib_add_two, Nat.add_comm]
    rw [hcalls, hvalue]

theorem runs_iff {n : ℕ} {counter : UInt64} {tally : Tally} :
    Runs n counter tally ↔ tally = recursiveFrom n counter := by
  constructor
  · exact Runs.eq_recursiveFrom
  · rintro rfl
    exact runs_recursiveFrom n counter

/-! ## Main statement -/

/-- At every index and from every counter, also where words wrap. The value is that of the
recursion without a counter, and the same from any other counter. The counter ends the number
of calls further on, modulo `2 ^ 64`. And every run that chooses the order of the sub-calls
anew at each call, with the counter going through them in that order, has the same tally. -/
theorem recursiveFrom_same_in_any_order (n : ℕ) (counter : UInt64) :
    (recursiveFrom n counter).value = recursive n
    ∧ (∀ other, (recursiveFrom n other).value = (recursiveFrom n counter).value)
    ∧ (recursiveFrom n counter).calls.toNat
      = (counter.toNat + 2 * Nat.fib (n + 1) - 1) % 2 ^ 64
    ∧ ∀ tally, Runs n counter tally ↔ tally = recursiveFrom n counter := by
  have hvalue : ∀ start, (recursiveFrom n start).value = recursive n := by
    intro start
    rw [recursiveFrom_eq, recursive_eq_ofNat]
  refine ⟨hvalue counter, ?_, ?_, fun tally => runs_iff⟩
  · intro other
    rw [hvalue other, hvalue counter]
  · have hpos : 0 < Nat.fib (n + 1) := Nat.fib_pos.mpr (by omega)
    have htotal : counter.toNat + 2 * Nat.fib (n + 1) - 1 = counter.toNat + callCount n := by
      rw [callCount]
      omega
    rw [htotal, recursiveFrom_eq, UInt64.toNat_add, UInt64.toNat_ofNat', Nat.add_mod_mod]

end Fibonacci.Evaluator
