/-
The closed form for the number of calls, operation by operation.

The way to it goes over four words: the next index, the Fibonacci number there, twice that
number, and one less. Three guards stand on the way. The next index has to be one, the
evaluator has to let it through, and the double has to fit; behind a guard that refuses,
nothing more is computed. `Operation` lists what is computed, each time with the number
that the word then holds and the number that the operation gives on integers.

The two are always the same (`Operation.exact`), though not every operation has a guard of
its own. The moves of the window stay below the number that the evaluator lets through, and
one can be taken off the double because the index is at least one, where no Fibonacci
number is zero.

The last guard asks whether the double fits, and what is wanted is one less. The question
would differ only for a double of `2 ^ 64`, and between the indices 92 and 93 the doubles
go past it.
-/
import Fibonacci.Proofs.CallCount

set_option autoImplicit false

namespace Fibonacci.Evaluator

/-! ## The operations -/

/-- What is computed on the way to the closed form at `n`: the number that a word holds
after an operation, and the number that the operation gives on integers. Each operation
comes with what has let the computation get there. -/
inductive Operation (n : UInt32) : ℕ → ℤ → Prop
  /-- The next index. -/
  | next (guard : n.toNat + 1 < UInt32.size) :
      Operation n (n + 1).toNat ((n.toNat : ℤ) + 1)
  /-- A move of the window, on the way to the Fibonacci number at the next index. -/
  | move (guard : n.toNat + 1 < UInt32.size) (passed : checkRange (n + 1) = .ok ())
      {moves : ℕ} (before : moves + 1 < (n + 1).toNat) :
      Operation n (Window.after moves).next.current.toNat
        (((Window.after moves).previous.toNat : ℤ) + (Window.after moves).current.toNat)
  /-- The double. -/
  | double (guard : n.toNat + 1 < UInt32.size) {next : UInt64}
      (found : iterative (n + 1) = .ok next) (fits : next.toNat * 2 < UInt64.size) :
      Operation n (next * 2).toNat ((next.toNat : ℤ) * 2)
  /-- One less than the double. -/
  | less (guard : n.toNat + 1 < UInt32.size) {next : UInt64}
      (found : iterative (n + 1) = .ok next) (fits : next.toNat * 2 < UInt64.size) :
      Operation n (next * 2 - 1).toNat (((next * 2).toNat : ℤ) - 1)

/-! ## None of them wraps -/

theorem fits_of_checkRange {n : UInt32} (h : checkRange n = .ok ()) :
    Nat.fib n.toNat ≤ 2 ^ 64 - 1 := by
  rw [checkRange_eq] at h
  by_contra hover
  rw [if_neg hover] at h
  cases h

/-- A move that stays below an index that fits adds as on integers. -/
theorem Window.toNat_next {n moves : ℕ} (hn : Nat.fib n ≤ 2 ^ 64 - 1) (h : moves + 1 < n) :
    (Window.after moves).next.current.toNat
      = (Window.after moves).previous.toNat + (Window.after moves).current.toNat := by
  have hsum := Window.sum_le hn h
  rw [Window.next, UInt64.toNat_add]
  exact Nat.mod_eq_of_lt (by omega)

theorem toNat_double {next : UInt64} (fits : next.toNat * 2 < UInt64.size) :
    (next * 2).toNat = next.toNat * 2 := by
  rw [UInt64.toNat_mul]
  exact Nat.mod_eq_of_lt fits

/-- The Fibonacci number behind an index is at least one. -/
theorem pos_of_iterative {n : UInt32} {next : UInt64} (guard : n.toNat + 1 < UInt32.size)
    (found : iterative (n + 1) = .ok next) : 0 < next.toNat := by
  rw [iterative_eq] at found
  have hfits := fits_of_eq_ok found
  rw [if_pos hfits] at found
  obtain rfl := Except.ok.inj found
  rw [toNat_ofNat_of_le hfits, toNat_next_index guard]
  exact Nat.fib_pos.mpr (Nat.succ_pos _)

/-- Every word on the way holds what the operation gives on integers. -/
theorem Operation.exact {n : UInt32} {held : ℕ} {result : ℤ} (h : Operation n held result) :
    (held : ℤ) = result := by
  rcases h with guard | ⟨guard, passed, before⟩ | ⟨guard, found, fits⟩ | ⟨guard, found, fits⟩
  · rw [toNat_next_index guard]
    rfl
  · rw [Window.toNat_next (fits_of_checkRange passed) before]
    exact Int.natCast_add _ _
  · rw [toNat_double fits]
    exact Int.natCast_mul _ _
  · -- the word is one less than a word that is not zero, so nothing is borrowed
    rename_i next
    have hpos := pos_of_iterative guard found
    have hdouble := toNat_double fits
    have hone : (1 : UInt64) ≤ next * 2 := by
      rw [UInt64.le_iff_toNat_le, hdouble, UInt64.toNat_one]
      omega
    rw [UInt64.toNat_sub_of_le _ _ hone, UInt64.toNat_one, hdouble]
    omega

/-! ## Main statement -/

/-- For every index. There is an answer exactly if the number of calls fits in a word, and
the answer is that number. On the way there no operation leaves its word: not the next
index, not a move of the window, not the double, and not the subtraction at the end. -/
theorem expectedCalls_some_iff_fits (n : UInt32) :
    ((∃ calls, expectedCalls n = some calls) ↔ 2 * Nat.fib (n.toNat + 1) - 1 ≤ 2 ^ 64 - 1)
    ∧ (∀ calls, expectedCalls n = some calls →
        calls.toNat = 2 * Nat.fib (n.toNat + 1) - 1)
    ∧ (∀ held result, Operation n held result → (held : ℤ) = result) := by
  rw [expectedCalls_eq, ← callCount]
  by_cases hfits : callCount n.toNat ≤ 2 ^ 64 - 1
  · rw [if_pos hfits]
    refine ⟨⟨fun _ => hfits, fun _ => ⟨_, rfl⟩⟩, ?_, fun _ _ => Operation.exact⟩
    intro calls hcalls
    rw [← Option.some.inj hcalls]
    exact toNat_ofNat_of_le hfits
  · rw [if_neg hfits]
    refine ⟨⟨?_, fun h => absurd h hfits⟩, ?_, fun _ _ => Operation.exact⟩
    · rintro ⟨calls, hcalls⟩
      cases hcalls
    · intro calls hcalls
      cases hcalls

/-- At 91 the count is the last that fits, and the subtraction that gives it is exact; at
the largest index there is no next one, and no answer. -/
theorem expectedCalls_at_the_ends :
    (∀ calls, expectedCalls 91 = some calls → calls.toNat = 15080227609492692857)
    ∧ (∃ calls, expectedCalls 91 = some calls)
    ∧ (∀ next, iterative 92 = .ok next → next.toNat * 2 < UInt64.size →
        ((next * 2 - 1).toNat : ℤ) = ((next * 2).toNat : ℤ) - 1)
    ∧ ¬ ∃ calls, expectedCalls 4294967295 = some calls := by
  have hindex : (91 : UInt32).toNat + 1 = 92 := rfl
  have hlast : (4294967295 : UInt32).toNat + 1 = 4294967296 := rfl
  obtain ⟨hiff, hcalls, hexact⟩ := expectedCalls_some_iff_fits 91
  refine ⟨?_, ?_, ?_, ?_⟩
  · intro calls h
    rw [hcalls calls h, hindex]
    norm_num
  · rw [hiff, hindex]
    norm_num
  · intro next found fits
    exact hexact _ _ (.less (by decide) found fits)
  · rw [(expectedCalls_some_iff_fits 4294967295).1, hlast]
    have hmono : Nat.fib 94 ≤ Nat.fib 4294967296 := Nat.fib_mono (by norm_num)
    have hover : 2 ^ 64 < Nat.fib 94 := by norm_num
    omega

end Fibonacci.Evaluator
