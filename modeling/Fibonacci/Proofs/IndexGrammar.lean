/-
The grammar of an index.

Every text is judged, and `Judged` says how: by what is left without the blanks around it.
Nothing is refused as empty, a minus sign as negative or as no integer, anything else that
is not digits with at most one plus sign before them as no natural number. Digits are
judged by the number that they stand for in base ten, and their count plays no part: the
number is an index below `2 ^ 32`, an overflow that names it below `2 ^ 64`, and beyond
that too large to be named.

The rules mention no reading function. That reading an index comes to exactly what they
say is `parse_eq_iff_judged`; since every rule has the number itself on the left and the
machine word on the right, no word is ever one that has wrapped.
-/
import Fibonacci.Proofs.Indices
import Fibonacci.Proofs.Trimming
import Mathlib.Data.List.Induction
import Mathlib.Data.Nat.Digits.Defs

set_option autoImplicit false

namespace Fibonacci

/-! ## Decimal numbers -/

namespace Text

/-- One or more of the digits `0` to `9`. -/
def IsDecimal (digits : List Char) : Prop := digits ≠ [] ∧ ∀ c ∈ digits, '0' ≤ c ∧ c ≤ '9'

/-- The number that digits stand for in base ten. -/
def decimalValue (digits : List Char) : ℕ :=
  Nat.ofDigits 10 (digits.reverse.map fun c => c.toNat - '0'.toNat)

theorem isDigit_iff {c : Char} : isDigit c = true ↔ '0' ≤ c ∧ c ≤ '9' := decide_eq_true_iff

theorem isNumeral_iff {digits : List Char} : isNumeral digits = true ↔ IsDecimal digits := by
  rw [isNumeral, Bool.and_eq_true, List.all_eq_true, Bool.not_eq_true', List.isEmpty_eq_false_iff]
  constructor
  · rintro ⟨hne, hall⟩
    exact ⟨hne, fun c hc => isDigit_iff.mp (hall c hc)⟩
  · rintro ⟨hne, hall⟩
    exact ⟨hne, fun c hc => isDigit_iff.mpr (hall c hc)⟩

/-- Taking digits in from the left gives the number that they stand for. -/
theorem valueOf_eq_decimalValue (digits : List Char) : valueOf digits = decimalValue digits := by
  induction digits using List.reverseRecOn with
  | nil => rfl
  | append_singleton digits c ih =>
    rw [valueOf_concat, ih, decimalValue, decimalValue, List.reverse_append, List.reverse_singleton,
      List.singleton_append, List.map_cons, Nat.ofDigits_cons, digitValue]
    omega

end Text

namespace Index

open Text (IsDecimal decimalValue Strips)

/-! ## The rules -/

/-- What is left of a text that has no minus sign in front, without a plus sign there. -/
inductive Unsigned : List Char → List Char → Prop
  | plus {rest : List Char} : Unsigned ('+' :: rest) rest
  | plain {c : Char} {rest : List Char} (minus : c ≠ '-') (plus : c ≠ '+') :
      Unsigned (c :: rest) (c :: rest)

/-- What a text comes to as an index, once the blanks around it are off. -/
inductive Judged : List Char → Except EvalError UInt32 → Prop
  | empty : Judged [] (.error (.invalidArgument
      "expected a non-negative integer, got an empty string"))
  | negative {rest : List Char} (decimal : IsDecimal rest) :
      Judged ('-' :: rest) (.error (.invalidArgument
        ("'" ++ String.ofList ('-' :: rest) ++ "' is negative")))
  | notInteger {rest : List Char} (other : ¬ IsDecimal rest) :
      Judged ('-' :: rest) (.error (.invalidArgument
        ("'" ++ String.ofList ('-' :: rest) ++ "' is not an integer")))
  | notNatural {text digits : List Char} (unsigned : Unsigned text digits)
      (other : ¬ IsDecimal digits) :
      Judged text (.error (.invalidArgument
        ("'" ++ String.ofList text ++ "' is not a non-negative integer")))
  | index {text digits : List Char} {n : UInt32} (unsigned : Unsigned text digits)
      (decimal : IsDecimal digits) (value : decimalValue digits = n.toNat) :
      Judged text (.ok n)
  | overflow {text digits : List Char} {n : UInt64} (unsigned : Unsigned text digits)
      (decimal : IsDecimal digits) (value : decimalValue digits = n.toNat)
      (wide : 2 ^ 32 ≤ decimalValue digits) :
      Judged text (.error (.overflow n))
  | tooLarge {text digits : List Char} (unsigned : Unsigned text digits)
      (decimal : IsDecimal digits) (huge : 2 ^ 64 ≤ decimalValue digits) :
      Judged text (.error (.invalidArgument
        ("'" ++ String.ofList text ++ "' is too large to be an index")))

/-! ## Reading follows the rules -/

theorem Unsigned.withoutPlus_eq {text digits : List Char} (h : Unsigned text digits) :
    Text.withoutPlus text = digits := by
  cases h with
  | plus => rfl
  | plain _ plus =>
    unfold Text.withoutPlus
    split
    · rename_i heq
      exact absurd (List.cons.inj heq).1 plus
    · rfl

/-- A text that is neither empty nor has a minus sign in front has a part without sign. -/
theorem exists_unsigned {c : Char} (rest : List Char) (h : c ≠ '-') :
    ∃ digits, Unsigned (c :: rest) digits := by
  by_cases hplus : c = '+'
  · rw [hplus]
    exact ⟨rest, .plus⟩
  · exact ⟨c :: rest, .plain h hplus⟩

theorem ofTrimmed_of_unsigned {text digits : List Char} (h : Unsigned text digits)
    (other : ¬ IsDecimal digits) : ofTrimmed text = .error (Fault.notNatural text).error := by
  have hnumeral : Text.isNumeral (Text.withoutPlus text) = false := by
    rw [h.withoutPlus_eq, ← Bool.not_eq_true, Text.isNumeral_iff]
    exact other
  unfold ofTrimmed
  split
  · cases h
  · cases h
    contradiction
  · simp only [hnumeral, Bool.not_false, if_true]

theorem ofTrimmed_of_decimal {text digits : List Char} (h : Unsigned text digits)
    (decimal : IsDecimal digits) :
    ofTrimmed text
      = if decimalValue digits < 2 ^ 64 then ofNat (decimalValue digits)
        else .error (Fault.tooLarge text).error := by
  have hnumeral : Text.isNumeral (Text.withoutPlus text) = true := by
    rw [h.withoutPlus_eq]
    exact Text.isNumeral_iff.mpr decimal
  rw [ofTrimmed_of_isNumeral hnumeral, h.withoutPlus_eq, Text.valueOf_eq_decimalValue]
  rfl

/-- A reason that names a text has it between single quotes. -/
theorem quoted_append (text : List Char) (rest : String) :
    quoted text ++ rest = "'" ++ String.ofList text ++ ("'" ++ rest) :=
  String.append_assoc

theorem ofTrimmed_minus (rest : List Char) :
    ofTrimmed ('-' :: rest)
      = if Text.isNumeral rest then .error (Fault.negative ('-' :: rest)).error
        else .error (Fault.notInteger ('-' :: rest)).error := rfl

/-- What the rules say is what reading gives. -/
theorem ofTrimmed_of_judged {text : List Char} {result : Except EvalError UInt32}
    (h : Judged text result) : ofTrimmed text = result := by
  cases h with
  | empty => rfl
  | negative decimal =>
    rw [ofTrimmed_minus, if_pos (Text.isNumeral_iff.mpr decimal), Fault.error, Fault.reason,
      quoted_append]
    rfl
  | notInteger other =>
    rw [ofTrimmed_minus, if_neg (fun h => other (Text.isNumeral_iff.mp h)), Fault.error,
      Fault.reason, quoted_append]
    rfl
  | notNatural unsigned other =>
    rw [ofTrimmed_of_unsigned unsigned other, Fault.error, Fault.reason, quoted_append]
    rfl
  | @index _ digits n unsigned decimal value =>
    have hlt : decimalValue digits < 2 ^ 32 := by
      rw [value]
      exact n.toNat_lt
    rw [ofTrimmed_of_decimal unsigned decimal, if_pos (by omega), ofNat_of_lt hlt, value,
      UInt32.ofNat_toNat]
  | @overflow _ digits n unsigned decimal value wide =>
    have hlt : decimalValue digits < 2 ^ 64 := by
      rw [value]
      exact n.toNat_lt
    rw [ofTrimmed_of_decimal unsigned decimal, if_pos hlt, ofNat_of_le wide, value,
      UInt64.ofNat_toNat]
  | tooLarge unsigned decimal huge =>
    rw [ofTrimmed_of_decimal unsigned decimal, if_neg (by omega), Fault.error, Fault.reason,
      quoted_append]
    rfl

/-- The rules leave no text out. -/
theorem exists_judged (text : List Char) : ∃ result, Judged text result := by
  rcases text with _ | ⟨c, rest⟩
  · exact ⟨_, .empty⟩
  by_cases hminus : c = '-'
  · rw [hminus]
    by_cases decimal : IsDecimal rest
    · exact ⟨_, .negative decimal⟩
    · exact ⟨_, .notInteger decimal⟩
  obtain ⟨digits, unsigned⟩ := exists_unsigned rest hminus
  by_cases decimal : IsDecimal digits
  · rcases lt_or_ge (decimalValue digits) (2 ^ 32) with hlt | hwide
    · exact ⟨_, .index unsigned decimal (UInt32.toNat_ofNat_of_lt' hlt).symm⟩
    · rcases lt_or_ge (decimalValue digits) (2 ^ 64) with hlt | hhuge
      · exact ⟨_, .overflow unsigned decimal (UInt64.toNat_ofNat_of_lt' hlt).symm hwide⟩
      · exact ⟨_, .tooLarge unsigned decimal hhuge⟩
  · exact ⟨_, .notNatural unsigned decimal⟩

/-! ## Main statement -/

/-- Reading the text as an index gives a result exactly if the rules give it for the text
without the blanks around it. -/
theorem parse_eq_iff_judged (s : String) (result : Except EvalError UInt32) :
    parse s = result ↔ ∃ text, Strips s.toList text ∧ Judged text result := by
  constructor
  · rintro rfl
    obtain ⟨result, judged⟩ := exists_judged (Text.trim s.toList)
    refine ⟨Text.trim s.toList, Text.strips_trim s.toList, ?_⟩
    rw [parse, ofTrimmed_of_judged judged]
    exact judged
  · rintro ⟨text, strips, judged⟩
    rw [parse, Text.trim_of_strips strips, ofTrimmed_of_judged judged]

/-- The text is digits for the number, with blanks around them and at most one plus sign in
front. -/
def Writes (s : String) (value : ℕ) : Prop :=
  ∃ text digits, Strips s.toList text ∧ Unsigned text digits ∧ IsDecimal digits
    ∧ decimalValue digits = value

/-- For every text. What reading it as an index comes to is what the rules say, and nothing
else. In particular an index that is read, and the number that an overflow names, is the
very number that the digits of the text stand for. -/
theorem parse_classifies_every_text (s : String) :
    (∀ result, parse s = result ↔ ∃ text, Strips s.toList text ∧ Judged text result)
    ∧ (∀ n, parse s = .ok n → Writes s n.toNat)
    ∧ ∀ n, parse s = .error (.overflow n) → Writes s n.toNat ∧ 2 ^ 32 ≤ n.toNat := by
  refine ⟨parse_eq_iff_judged s, ?_, ?_⟩
  · intro n hn
    obtain ⟨text, strips, judged⟩ := (parse_eq_iff_judged s _).mp hn
    cases judged with
    | index unsigned decimal value => exact ⟨text, _, strips, unsigned, decimal, value⟩
  · intro n hn
    obtain ⟨text, strips, judged⟩ := (parse_eq_iff_judged s _).mp hn
    cases judged with
    | overflow unsigned decimal value wide =>
      exact ⟨⟨text, _, strips, unsigned, decimal, value⟩, value ▸ wide⟩

/-- The last index, with blanks, a plus sign and leading zeros; the first number above it;
the first that has no name; and a minus sign before what is no number. -/
theorem parse_at_the_bounds :
    parse "\u00a0+0004294967295\n" = .ok 4294967295
    ∧ parse "4294967296" = .error (.overflow 4294967296)
    ∧ parse "18446744073709551616"
        = .error (.invalidArgument "'18446744073709551616' is too large to be an index")
    ∧ parse " --1" = .error (.invalidArgument "'--1' is not an integer") := by
  refine ⟨?_, ?_, ?_, ?_⟩
  · refine ((parse_classifies_every_text _).1 _).mpr ⟨"+0004294967295".toList,
      Text.strips_iff.mpr (by decide +kernel), .index .plus (Text.isNumeral_iff.mp (by decide)) ?_⟩
    decide +kernel
  · refine ((parse_classifies_every_text _).1 _).mpr ⟨"4294967296".toList,
      Text.strips_iff.mpr (by decide +kernel),
      .overflow (.plain (by decide) (by decide)) (Text.isNumeral_iff.mp (by decide)) ?_ ?_⟩ <;>
    decide +kernel
  · refine ((parse_classifies_every_text _).1 _).mpr ⟨"18446744073709551616".toList,
      Text.strips_iff.mpr (by decide +kernel),
      .tooLarge (.plain (by decide) (by decide)) (Text.isNumeral_iff.mp (by decide)) ?_⟩
    decide +kernel
  · exact ((parse_classifies_every_text _).1 _).mpr ⟨"--1".toList,
      Text.strips_iff.mpr (by decide +kernel), .notInteger (by
        rintro ⟨-, hall⟩
        exact absurd (hall '-' (by decide)) (by decide))⟩

end Index
end Fibonacci
