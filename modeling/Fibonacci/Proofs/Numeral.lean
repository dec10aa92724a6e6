/-
Canonical numerals.

The numerals that the program writes are the decimal numerals of the standard library:
no leading zero, and `0` for zero. Both are defined by splitting off the last digit, so
the induction is on the number, by its tenth part.

A numeral is a non-empty run of digits that reads back as its number, and only that of
zero starts with a zero. These are the facts that a reader of numerals goes by.
-/
import Fibonacci.Text.Numeral
import Mathlib.Tactic.IntervalCases

set_option autoImplicit false

namespace Fibonacci.Text

theorem digitChar_eq (n : ℕ) : digitChar n = Nat.digitChar (n % 10) := by
  have hlt : n % 10 < 10 := Nat.mod_lt _ (by norm_num)
  unfold digitChar
  generalize n % 10 = d at hlt ⊢
  interval_cases d <;> rfl

/-- The digits of a number are those of its canonical decimal numeral. -/
theorem digits_eq_toDigits (n : ℕ) : digits n = Nat.toDigits 10 n := by
  fun_induction digits n with
  | case1 n h =>
    rw [Nat.toDigits_of_lt_base h, digitChar_eq, Nat.mod_eq_of_lt h]
  | case2 n h ih =>
    rw [Nat.toDigits_of_base_le (by norm_num) (by omega), ih, digitChar_eq]

theorem numeral_eq_toString (n : ℕ) : numeral n = toString n := by
  rw [numeral, digits_eq_toDigits, Nat.toString_eq_ofList_toDigits]

/-! ## What a reader finds -/

theorem toNat_digitChar (n : ℕ) : (digitChar n).toNat = 48 + n % 10 := by
  have hlt : n % 10 < 10 := Nat.mod_lt _ (by norm_num)
  unfold digitChar
  generalize n % 10 = d at hlt ⊢
  interval_cases d <;> rfl

theorem isDigit_digitChar (n : ℕ) : isDigit (digitChar n) = true := by
  have hlt : n % 10 < 10 := Nat.mod_lt _ (by norm_num)
  unfold isDigit
  rw [toNat_digitChar, decide_eq_true_iff]
  change 48 ≤ 48 + n % 10 ∧ 48 + n % 10 ≤ 57
  omega

theorem digitValue_digitChar (n : ℕ) : digitValue (digitChar n) = n % 10 := by
  rw [digitValue, toNat_digitChar]
  change 48 + n % 10 - 48 = n % 10
  omega

theorem digits_ne_nil (n : ℕ) : digits n ≠ [] := by
  unfold digits
  split <;> simp

theorem digits_zero : digits 0 = ['0'] := by
  rw [digits]
  rfl

theorem isDigit_of_mem_digits {n : ℕ} {c : Char} (h : c ∈ digits n) : isDigit c = true := by
  fun_induction digits n with
  | case1 n hn =>
    rw [List.mem_singleton.mp h]
    exact isDigit_digitChar n
  | case2 n hn ih =>
    rcases List.mem_append.mp h with hc | hc
    · exact ih hc
    · rw [List.mem_singleton.mp hc]
      exact isDigit_digitChar n

theorem not_mem_digits {c : Char} (hc : isDigit c = false) (n : ℕ) : c ∉ digits n := by
  intro h
  rw [isDigit_of_mem_digits h] at hc
  cases hc

theorem isNumeral_digits (n : ℕ) : isNumeral (digits n) = true := by
  simp only [isNumeral, Bool.and_eq_true, List.all_eq_true]
  refine ⟨by simp [digits_ne_nil], ?_⟩
  intro c hc
  exact isDigit_of_mem_digits hc

theorem valueOf_digits (n : ℕ) : valueOf (digits n) = n := by
  fun_induction digits n with
  | case1 n hn =>
    have hvalue : valueOf [digitChar n] = 0 * 10 + digitValue (digitChar n) := rfl
    rw [hvalue, digitValue_digitChar]
    omega
  | case2 n hn ih =>
    rw [valueOf_concat, ih, digitValue_digitChar]
    omega

theorem toList_numeral (n : ℕ) : (numeral n).toList = digits n := by
  rw [numeral, String.toList_ofList]

theorem digits_inj {n m : ℕ} (h : digits n = digits m) : n = m := by
  rw [← valueOf_digits n, h, valueOf_digits]

/-- A numeral is told from what follows it, where no digit follows. -/
theorem digits_append_inj {n m : ℕ} {rest other : List Char}
    (hrest : ∀ c ∈ rest.head?, isDigit c = false)
    (hother : ∀ c ∈ other.head?, isDigit c = false)
    (h : digits n ++ rest = digits m ++ other) : n = m ∧ rest = other := by
  have hspan : ∀ k : ℕ, ∀ more : List Char, (∀ c ∈ more.head?, isDigit c = false) →
      (digits k ++ more).takeWhile isDigit = digits k := by
    intro k more hmore
    rw [List.takeWhile_append_of_pos fun c hc => isDigit_of_mem_digits hc]
    rcases more with _ | ⟨c, more⟩
    · simp
    · rw [List.takeWhile_cons_of_neg (by simp [hmore c rfl]), List.append_nil]
  have hdigits : digits n = digits m := by
    rw [← hspan n rest hrest, h, hspan m other hother]
  refine ⟨digits_inj hdigits, ?_⟩
  rw [hdigits] at h
  exact List.append_cancel_left h

/-- Only the numeral of zero starts with a zero. -/
theorem eq_zero_of_head?_digits {n : ℕ} (h : (digits n).head? = some '0') : n = 0 := by
  fun_induction digits n with
  | case1 n hn =>
    have hchar : digitChar n = '0' := Option.some.inj h
    have hvalue := digitValue_digitChar n
    rw [hchar] at hvalue
    have hzero : digitValue '0' = 0 := rfl
    omega
  | case2 n hn ih =>
    -- the first digit is that of the tenth part, which is not zero
    rw [List.head?_append, List.head?_eq_some_head (digits_ne_nil _), Option.some_or,
      ← List.head?_eq_some_head] at h
    have htenth : n / 10 = 0 := ih h
    omega

/-! ## Telling characters apart -/

theorem ne_of_class {p : Char → Bool} {c d : Char} (hc : p c = true) (hd : p d = false) :
    c ≠ d := by
  rintro rfl
  rw [hc] at hd
  cases hd

/-- A character that starts a number starts nothing else. -/
theorem ne_of_startsNumber {c d : Char} (hc : c = '-' ∨ isDigit c = true)
    (hminus : d ≠ '-') (hdigit : isDigit d = false) : c ≠ d := by
  rcases hc with rfl | hc
  · exact hminus.symm
  · exact ne_of_class hc hdigit

theorem head_digits (n : ℕ) :
    ∃ first more, digits n = first :: more ∧ isDigit first = true := by
  obtain ⟨first, more, hdigits⟩ := List.exists_cons_of_ne_nil (digits_ne_nil n)
  refine ⟨first, more, hdigits, isDigit_of_mem_digits (n := n) ?_⟩
  rw [hdigits]
  exact List.mem_cons_self

/-- The numeral of an integer starts like a number. -/
theorem head_signedDigits (i : ℤ) :
    ∃ first more, signedDigits i = first :: more ∧ (first = '-' ∨ isDigit first = true) := by
  unfold signedDigits
  by_cases hi : i < 0
  · rw [if_pos hi]
    exact ⟨'-', _, rfl, .inl rfl⟩
  · obtain ⟨first, more, hdigits, hfirst⟩ := head_digits i.natAbs
    rw [if_neg hi]
    exact ⟨first, more, hdigits, .inr hfirst⟩

end Fibonacci.Text
