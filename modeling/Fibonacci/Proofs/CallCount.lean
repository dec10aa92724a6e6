/-
The calls of the double recursion.

Asked for `n`, the recursion makes `callCount n` calls, twice the next Fibonacci
number less one. The counter is passed through both sub-calls in wrapping words, so
whatever it starts from it ends `callCount n` further on, modulo `2 ^ 64`, and the
value does not depend on it (`recursiveFrom_eq`).

Between start and end the counter takes every value once. `CountedCall` says which
calls are made and what counter each of them finds; the calls below one call account
for consecutive stretches of the count, so the counters found are exactly the first
`callCount n` after the start. This is what turns a statement about every increment
into one about the total: no increment wraps exactly if the total fits in a word
(`forall_increment_le_iff`).

The range check looks at the value and not at the count, and the count is the larger.
It leaves the word at 92, two indices before the value does, so at 92 and 93 an answer
is given whose count has wrapped.
-/
import Fibonacci.Proofs.Sequence

set_option autoImplicit false

namespace Fibonacci.Evaluator

/-! ## The number of calls -/

/-- How many calls the recursion makes at `n`, as a natural number. -/
def callCount (n : ℕ) : ℕ := 2 * Nat.fib (n + 1) - 1

/-- A call is itself and the calls of its two sub-calls. -/
theorem callCount_add_two (n : ℕ) :
    callCount (n + 2) = 1 + callCount (n + 1) + callCount n := by
  have hpos : 0 < Nat.fib (n + 1) := Nat.fib_pos.mpr (by omega)
  have hfib : Nat.fib (n + 2 + 1) = Nat.fib (n + 1) + Nat.fib (n + 1 + 1) :=
    Nat.fib_add_two
  have hpos' : 0 < Nat.fib (n + 1 + 1) := Nat.fib_pos.mpr (by omega)
  simp only [callCount]
  omega

theorem callCount_pos (n : ℕ) : 0 < callCount n := by
  have hpos : 0 < Nat.fib (n + 1) := Nat.fib_pos.mpr (by omega)
  simp only [callCount]
  omega

/-- The count fits in a word up to 91, and so does the doubled number that the closed
form passes through. -/
theorem callCount_le_iff (n : ℕ) : callCount n ≤ 2 ^ 64 - 1 ↔ n ≤ 91 := by
  have hfits : 2 * Nat.fib 92 ≤ 2 ^ 64 - 1 := by norm_num
  have hover : 2 ^ 64 < 2 * Nat.fib 93 := by norm_num
  simp only [callCount]
  constructor
  · intro h
    by_contra hn
    have hmono : Nat.fib 93 ≤ Nat.fib (n + 1) := Nat.fib_mono (by omega)
    omega
  · intro h
    have hmono : Nat.fib (n + 1) ≤ Nat.fib 92 := Nat.fib_mono (by omega)
    omega

/-! ## The counter from start to end -/

/-- Counted one by one, a call and its two sub-calls come to the count of the call. -/
theorem counter_add_two (counter : UInt64) (n : ℕ) :
    counter + 1 + UInt64.ofNat (callCount (n + 1)) + UInt64.ofNat (callCount n)
      = counter + UInt64.ofNat (callCount (n + 2)) := by
  rw [callCount_add_two, UInt64.ofNat_add, UInt64.ofNat_add]
  simp only [UInt64.add_assoc]
  rfl

/-- From any counter, the counting recursion gives the value of the plain one and
leaves the counter `callCount n` further on, modulo `2 ^ 64`. -/
theorem recursiveFrom_eq (n : ℕ) (counter : UInt64) :
    recursiveFrom n counter
      = ⟨UInt64.ofNat (Nat.fib n), counter + UInt64.ofNat (callCount n)⟩ := by
  fun_induction recursiveFrom n counter with
  | case1 counter => rfl
  | case2 counter => rfl
  | case3 n counter left right ihleft ihright =>
    -- `left` and `right` are names for the two sub-calls; the second starts from the
    -- counter that the first leaves
    have hleft : left = ⟨UInt64.ofNat (Nat.fib (n + 1)),
        counter + 1 + UInt64.ofNat (callCount (n + 1))⟩ := ihleft
    have hright : right = ⟨UInt64.ofNat (Nat.fib n),
        left.calls + UInt64.ofNat (callCount n)⟩ := ihright
    have hvalue : left.value + right.value = UInt64.ofNat (Nat.fib (n + 2)) := by
      rw [hright, hleft, ← UInt64.ofNat_add, Nat.fib_add_two, Nat.add_comm]
    have hcalls : right.calls = counter + UInt64.ofNat (callCount (n + 2)) := by
      rw [hright, hleft, ← counter_add_two]
    rw [hvalue, hcalls]

/-- The counting evaluator lets through what the plain one does. -/
theorem counted_eq (n : UInt32) :
    counted n
      = if Nat.fib n.toNat ≤ 2 ^ 64 - 1 then
          .ok ⟨UInt64.ofNat (Nat.fib n.toNat), UInt64.ofNat (callCount n.toNat)⟩
        else .error (.overflow n.toUInt64) := by
  unfold counted
  rw [checkRange_eq, recursiveFrom_eq, UInt64.zero_add]
  split <;> rfl

/-- What is known of an answer: its index fits, its value is exact, its count is exact
modulo `2 ^ 64`. -/
theorem of_counted_eq_ok {n : UInt32} {tally : Tally} (h : counted n = .ok tally) :
    Nat.fib n.toNat ≤ 2 ^ 64 - 1 ∧ tally.value.toNat = Nat.fib n.toNat
    ∧ tally.calls = UInt64.ofNat (callCount n.toNat) := by
  rw [counted_eq] at h
  by_cases hfits : Nat.fib n.toNat ≤ 2 ^ 64 - 1
  · rw [if_pos hfits] at h
    cases h
    exact ⟨hfits, toNat_ofNat_of_le hfits, rfl⟩
  · rw [if_neg hfits] at h
    cases h

/-! ## The closed form -/

theorem toNat_next_index {n : UInt32} (h : n.toNat + 1 < UInt32.size) :
    (n + 1).toNat = n.toNat + 1 := by
  rw [UInt32.toNat_add]
  exact Nat.mod_eq_of_lt h

/-- The closed form gives the count where it fits in a word, and nothing elsewhere. The
three steps that can leave a word are the next index, the value there and its double;
up to 91 none of them does, and from 92 on the double always would. -/
theorem expectedCalls_eq (n : UInt32) :
    expectedCalls n
      = if callCount n.toNat ≤ 2 ^ 64 - 1 then some (UInt64.ofNat (callCount n.toNat))
        else none := by
  have htop : 2 * Nat.fib 92 ≤ 2 ^ 64 - 1 := by norm_num
  have hover : 2 ^ 64 < 2 * Nat.fib 93 := by norm_num
  have hsize : UInt64.size = 2 ^ 64 := rfl
  have hsize' : UInt32.size = 2 ^ 32 := rfl
  unfold expectedCalls
  by_cases hword : n.toNat + 1 < UInt32.size
  · rw [if_pos hword, iterative_eq, toNat_next_index hword]
    by_cases hn : n.toNat ≤ 91
    · have hmono : Nat.fib (n.toNat + 1) ≤ Nat.fib 92 := Nat.fib_mono (by omega)
      have hpos : 0 < Nat.fib (n.toNat + 1) := Nat.fib_pos.mpr (by omega)
      have hcalls : UInt64.ofNat (Nat.fib (n.toNat + 1)) * 2 - 1
          = UInt64.ofNat (callCount n.toNat) := by
        rw [callCount, UInt64.ofNat_sub (by omega), UInt64.ofNat_mul, UInt64.mul_comm]
        rfl
      rw [if_pos (by omega), if_pos ((callCount_le_iff _).mpr hn)]
      dsimp only
      rw [toNat_ofNat_of_le (by omega), if_pos (by omega), hcalls]
    · have hmono : Nat.fib 93 ≤ Nat.fib (n.toNat + 1) := Nat.fib_mono (by omega)
      have hcount : ¬ callCount n.toNat ≤ 2 ^ 64 - 1 :=
        fun h => hn ((callCount_le_iff _).mp h)
      rw [if_neg hcount]
      -- at 92 the next number still fits and its double does not; beyond that the
      -- next number is refused already
      by_cases hfits : Nat.fib (n.toNat + 1) ≤ 2 ^ 64 - 1
      · rw [if_pos hfits]
        dsimp only
        rw [toNat_ofNat_of_le hfits, if_neg (by omega)]
      · rw [if_neg hfits]
  · have hcount : ¬ callCount n.toNat ≤ 2 ^ 64 - 1 := by
      rw [callCount_le_iff]
      omega
    rw [if_neg hword, if_neg hcount]

/-! ## The counter on the way -/

/-- The counting recursion asked for `n` with the counter at `start` calls itself at
`m`, at some depth, with the counter at `counter`. The second of two sub-calls finds
what the first has left. -/
inductive CountedCall (n : ℕ) (start : UInt64) : ℕ → UInt64 → Prop
  | self : CountedCall n start n start
  | first {m : ℕ} {counter : UInt64} (above : CountedCall n start (m + 2) counter) :
      CountedCall n start (m + 1) (counter + 1)
  | second {m : ℕ} {counter : UInt64} (above : CountedCall n start (m + 2) counter) :
      CountedCall n start m (recursiveFrom (m + 1) (counter + 1)).calls

/-- The calls of a call are calls of whatever made it. -/
theorem CountedCall.trans {n m k : ℕ} {start counter later : UInt64}
    (h : CountedCall n start m counter) (h' : CountedCall m counter k later) :
    CountedCall n start k later := by
  induction h' with
  | self => exact h
  | first _ ih => exact ih.first
  | second _ ih => exact ih.second

/-- A call finds the counter advanced by the calls made before it, and it and the calls
below it are still among those counted in the end. -/
theorem CountedCall.offset {n m : ℕ} {start counter : UInt64}
    (h : CountedCall n start m counter) :
    ∃ made, counter = start + UInt64.ofNat made ∧ made + callCount m ≤ callCount n := by
  induction h with
  | self => exact ⟨0, (UInt64.add_zero start).symm, by omega⟩
  | @first m counter _ ih =>
    obtain ⟨made, rfl, hmade⟩ := ih
    rw [callCount_add_two] at hmade
    refine ⟨made + 1, ?_, by omega⟩
    rw [UInt64.ofNat_add, UInt64.add_assoc]
    rfl
  | @second m counter _ ih =>
    obtain ⟨made, rfl, hmade⟩ := ih
    rw [callCount_add_two] at hmade
    refine ⟨made + 1 + callCount (m + 1), ?_, by omega⟩
    rw [recursiveFrom_eq, UInt64.ofNat_add, UInt64.ofNat_add]
    simp only [UInt64.add_assoc]
    rfl

/-- Conversely every value of the counter from the start to the end is found by some
call. The calls below `n + 2` are itself, then those of the first sub-call, then those
of the second, and `made` falls into one of the three stretches. -/
theorem exists_countedCall (n : ℕ) (start : UInt64) (made : ℕ) (h : made < callCount n) :
    ∃ m, CountedCall n start m (start + UInt64.ofNat made) := by
  fun_induction recursive n generalizing start made with
  | case1 =>
    obtain rfl : made = 0 := by
      have : callCount 0 = 1 := rfl
      omega
    exact ⟨0, by simpa using CountedCall.self⟩
  | case2 =>
    obtain rfl : made = 0 := by
      have : callCount 1 = 1 := rfl
      omega
    exact ⟨1, by simpa using CountedCall.self⟩
  | case3 n ihfirst ihsecond =>
    rw [callCount_add_two] at h
    rcases Nat.eq_zero_or_pos made with rfl | hpos
    · exact ⟨n + 2, by simpa using CountedCall.self⟩
    · rcases Nat.lt_or_ge (made - 1) (callCount (n + 1)) with hlt | hge
      · -- the call is below the first sub-call, which starts one further on
        obtain ⟨m, hm⟩ := ihfirst (start + 1) (made - 1) hlt
        refine ⟨m, CountedCall.self.first.trans ?_⟩
        have hsplit : start + UInt64.ofNat made
            = start + 1 + UInt64.ofNat (made - 1) := by
          conv_lhs => rw [show made = 1 + (made - 1) by omega, UInt64.ofNat_add]
          rw [← UInt64.add_assoc]
          rfl
        rw [hsplit]
        exact hm
      · -- the call is below the second sub-call, which starts where the first has left
        -- the counter; `recursiveFrom_eq` says where that is
        obtain ⟨m, hm⟩ := ihsecond (recursiveFrom (n + 1) (start + 1)).calls
          (made - 1 - callCount (n + 1)) (by omega)
        refine ⟨m, CountedCall.self.second.trans ?_⟩
        have hsplit : start + UInt64.ofNat made
            = (recursiveFrom (n + 1) (start + 1)).calls
              + UInt64.ofNat (made - 1 - callCount (n + 1)) := by
          rw [recursiveFrom_eq]
          conv_lhs => rw [show made = 1 + callCount (n + 1) + (made - 1 - callCount (n + 1))
            by omega, UInt64.ofNat_add, UInt64.ofNat_add]
          simp only [UInt64.add_assoc]
          rfl
        rw [hsplit]
        exact hm

/-- From zero, no increment of the counter wraps exactly if the total fits in a word:
a total that does not fit is passed on the way, one call at a time. -/
theorem forall_increment_le_iff (n : ℕ) :
    (∀ m counter, CountedCall n 0 m counter → counter.toNat + 1 ≤ 2 ^ 64 - 1)
      ↔ callCount n ≤ 2 ^ 64 - 1 := by
  constructor
  · intro hall
    by_contra hover
    -- a total beyond the word means that one of the calls finds the counter full
    obtain ⟨m, hm⟩ := exists_countedCall n 0 (2 ^ 64 - 1) (by omega)
    have hlast := hall m _ hm
    rw [UInt64.zero_add, toNat_ofNat_of_le le_rfl] at hlast
    omega
  · intro hfits m counter hcall
    obtain ⟨made, rfl, hmade⟩ := hcall.offset
    have hpos := callCount_pos m
    rw [UInt64.zero_add, toNat_ofNat_of_le (by omega)]
    omega

/-! ## Main statement -/

/-- Where the counting evaluator answers, the value is the Fibonacci number and the
count is right modulo `2 ^ 64`. Nothing wraps on the way, the count is right as a
number, and the closed form agrees with it, each exactly up to 91, although answers
are given up to 93. -/
theorem counted_exact_iff_le_ninety_one (n : UInt32) (tally : Tally)
    (h : counted n = .ok tally) :
    n.toNat ≤ 93
    ∧ tally.value.toNat = Nat.fib n.toNat
    ∧ tally.calls.toNat = (2 * Nat.fib (n.toNat + 1) - 1) % 2 ^ 64
    ∧ ((∀ m counter, CountedCall n.toNat 0 m counter → counter.toNat + 1 ≤ 2 ^ 64 - 1)
        ↔ n.toNat ≤ 91)
    ∧ (tally.calls.toNat = 2 * Nat.fib (n.toNat + 1) - 1 ↔ n.toNat ≤ 91)
    ∧ (expectedCalls n = some tally.calls ↔ n.toNat ≤ 91) := by
  obtain ⟨hfits, hvalue, hcalls⟩ := of_counted_eq_ok h
  have hmod : tally.calls.toNat = callCount n.toNat % 2 ^ 64 := by
    rw [hcalls, UInt64.toNat_ofNat']
  refine ⟨(fib_le_iff _).mp hfits, hvalue, hmod, ?_, ?_, ?_⟩
  · rw [forall_increment_le_iff, callCount_le_iff]
  · rw [← callCount, ← callCount_le_iff, hmod]
    constructor
    · intro hexact
      -- the count is equal to its own remainder, which is below the modulus
      have hlt : callCount n.toNat % 2 ^ 64 < 2 ^ 64 := Nat.mod_lt _ (by norm_num)
      omega
    · intro hword
      exact Nat.mod_eq_of_lt (by omega)
  · rw [← callCount_le_iff, expectedCalls_eq, hcalls]
    by_cases hword : callCount n.toNat ≤ 2 ^ 64 - 1
    · exact ⟨fun _ => hword, fun _ => if_pos hword⟩
    · rw [if_neg hword]
      exact ⟨nofun, fun hfit => absurd hfit hword⟩

/-- The last index at which the count is right. -/
theorem counted_ninety_one :
    counted 91 = .ok ⟨4660046610375530309, 15080227609492692857⟩
    ∧ expectedCalls 91 = some 15080227609492692857 := by
  have hanswer : counted 91 = .ok ⟨4660046610375530309, 15080227609492692857⟩ := by
    have hn : (91 : UInt32).toNat = 91 := rfl
    rw [counted_eq, callCount, hn, if_pos (by norm_num)]
    norm_num
    exact ⟨rfl, rfl⟩
  have hall := counted_exact_iff_le_ninety_one 91 _ hanswer
  exact ⟨hanswer, hall.2.2.2.2.2.mpr (by decide)⟩

/-- One index further an answer is given, but its count has wrapped: an increment on
the way goes over the largest word, the count is not that of the calls, and the closed
form has no answer. -/
theorem counted_ninety_two_wraps :
    counted 92 = .ok ⟨7540113804746346429, 5953576756534201859⟩
    ∧ (∃ m counter, CountedCall 92 0 m counter ∧ 2 ^ 64 - 1 < counter.toNat + 1)
    ∧ 2 * Nat.fib 93 - 1 = 24400320830243753475
    ∧ expectedCalls 92 = none := by
  have hn : (92 : UInt32).toNat = 92 := rfl
  have hcount : ¬ callCount 92 ≤ 2 ^ 64 - 1 := by
    rw [callCount_le_iff]
    decide
  refine ⟨?_, ?_, by norm_num, ?_⟩
  · rw [counted_eq, callCount, hn, if_pos (by norm_num)]
    norm_num
    exact ⟨rfl, rfl⟩
  · obtain ⟨m, hm⟩ := exists_countedCall 92 0 (2 ^ 64 - 1) (by omega)
    refine ⟨m, _, hm, ?_⟩
    rw [UInt64.zero_add, toNat_ofNat_of_le le_rfl]
    omega
  · rw [expectedCalls_eq, hn, if_neg hcount]

end Fibonacci.Evaluator
