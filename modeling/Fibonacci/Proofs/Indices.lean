/-
Indices given from outside.

An index comes as a text or as a signed integer, and each way has a check of its own: the
text is trimmed, its sign is taken off, and its digits are read as a natural number; the
integer is compared with zero. Behind both stands the same narrowing to thirty-two bits.
So for the canonical numeral of an integer the two checks let through the same numbers
(`parse_toString_of_nonneg`), and where they refuse, they differ in the quotes around a
negative number and in nothing else.

In the settings the second way has its key named in front of the message. The algorithm
and the report are looked at after the index and do not depend on it, which is what
`resolve_of_index_ok` and `resolve_of_index_error` say; every statement about a whole
resolution is taken from these two.
-/
import Fibonacci.Proofs.Numeral
import Fibonacci.Proofs.Sources
import Fibonacci.Proofs.Trimming

set_option autoImplicit false

namespace Fibonacci

/-! ## Numerals have no blanks around them -/

namespace Text

theorem isBlank_of_isDigit {c : Char} (h : isDigit c = true) : isBlank c = false := by
  have hdigit : 48 ≤ c.toNat ∧ c.toNat ≤ 57 := of_decide_eq_true h
  -- the digits lie between the space and the first blank beyond ASCII
  rw [← Bool.not_eq_true, isBlank, inRanges_eq_true_iff]
  rintro ⟨range, hmem, hlow, hhigh⟩
  simp only [whiteSpace, List.mem_cons, List.not_mem_nil, or_false] at hmem
  rcases hmem with rfl | rfl | rfl | rfl | rfl | rfl | rfl | rfl | rfl | rfl <;>
    simp only at hlow hhigh <;> omega

theorem trim_of_not_blank {text : List Char} (h : ∀ c ∈ text, isBlank c = false) :
    trim text = text := by
  have hstrips := @strips_of_not_blank [] text [] nofun nofun h
  rw [List.nil_append, List.append_nil] at hstrips
  exact trim_of_strips hstrips

theorem trim_signedDigits (i : ℤ) : trim (signedDigits i) = signedDigits i := by
  have hdigits : ∀ c ∈ digits i.natAbs, isBlank c = false := by
    intro c hc
    exact isBlank_of_isDigit (isDigit_of_mem_digits hc)
  apply trim_of_not_blank
  unfold signedDigits
  split
  · intro c hc
    rcases List.mem_cons.mp hc with rfl | hc
    · decide
    · exact hdigits c hc
  · exact hdigits

theorem signedNumeral_eq_toString (i : ℤ) : signedNumeral i = toString i := by
  unfold signedNumeral signedDigits
  rcases i with n | n
  · rw [if_neg (by simp)]
    exact numeral_eq_toString n
  · rw [if_pos (by simp [Int.negSucc_lt_zero]), String.ofList_cons]
    exact congrArg ("-" ++ ·) (numeral_eq_toString (n + 1))

theorem toList_toString (i : ℤ) : (toString i).toList = signedDigits i := by
  rw [← signedNumeral_eq_toString, signedNumeral, String.toList_ofList]

theorem withoutPlus_of_isNumeral {text : List Char} (h : isNumeral text = true) :
    withoutPlus text = text := by
  unfold withoutPlus
  split
  · -- a plus sign is no digit
    simp [isNumeral, isDigit] at h
  · rfl

end Text

/-! ## Reading a text -/

namespace Index

/-- Digits are judged by their value, with a plus sign before them or without. -/
theorem ofTrimmed_of_isNumeral {text : List Char}
    (h : Text.isNumeral (Text.withoutPlus text) = true) :
    ofTrimmed text
      = if Text.valueOf (Text.withoutPlus text) < UInt64.size then
          ofNat (Text.valueOf (Text.withoutPlus text))
        else .error (Fault.tooLarge text).error := by
  unfold ofTrimmed
  split
  · simp [Text.withoutPlus, Text.isNumeral] at h
  · -- a minus sign stays where it is, and is no digit
    simp [Text.withoutPlus, Text.isNumeral, Text.isDigit] at h
  · simp only [h, Bool.not_true, Bool.false_eq_true, if_false]

theorem ofNat_of_lt {value : ℕ} (h : value < 2 ^ 32) :
    ofNat value = .ok (UInt32.ofNat value) := if_pos h

theorem ofNat_of_le {value : ℕ} (h : 2 ^ 32 ≤ value) :
    ofNat value = .error (.overflow (UInt64.ofNat value)) := if_neg (not_lt.mpr h)

/-- The numeral of an integer that is not negative is read as the integer itself is. -/
theorem parse_toString_of_nonneg {i : ℤ} (hi : 0 ≤ i) (hlt : i < 2 ^ 64) :
    parse (toString i) = ofInt i := by
  have hdigits : Text.signedDigits i = Text.digits i.natAbs := if_neg (by omega)
  have hnumeral := Text.isNumeral_digits i.natAbs
  have hvalue : Text.valueOf (Text.digits i.natAbs) = i.toNat := by
    rw [Text.valueOf_digits]
    omega
  have hsize : i.toNat < UInt64.size := by
    have : UInt64.size = 2 ^ 64 := rfl
    omega
  rw [parse, Text.toList_toString, Text.trim_signedDigits, hdigits,
    ofTrimmed_of_isNumeral (by rw [Text.withoutPlus_of_isNumeral hnumeral]; exact hnumeral),
    Text.withoutPlus_of_isNumeral hnumeral, hvalue, if_pos hsize, ofInt, if_neg (by omega)]

theorem parse_toString_of_neg {i : ℤ} (hi : i < 0) :
    parse (toString i) = .error (.invalidArgument ("'" ++ toString i ++ "' is negative")) := by
  have hdigits : Text.signedDigits i = '-' :: Text.digits i.natAbs := if_pos hi
  have hquoted : quoted (Text.signedDigits i) = "'" ++ toString i ++ "'" := by
    rw [quoted, ← Text.toList_toString, String.ofList_toList]
  rw [parse, Text.toList_toString, Text.trim_signedDigits, hdigits]
  simp only [ofTrimmed, Text.isNumeral_digits, if_true]
  rw [← hdigits, Fault.error, Fault.reason, hquoted, String.append_assoc]
  rfl

theorem ofInt_of_neg {i : ℤ} (hi : i < 0) :
    ofInt i = .error (.invalidArgument (toString i ++ " is negative")) := by
  rw [ofInt, if_pos hi, Text.signedNumeral_eq_toString]

theorem ofInt_of_le {i : ℤ} (hi : 2 ^ 32 ≤ i) :
    ofInt i = .error (.overflow (UInt64.ofNat i.toNat)) := by
  rw [ofInt, if_neg (by omega), ofNat_of_le (by omega)]

theorem ofInt_of_lt {i : ℤ} (hi : 0 ≤ i) (hlt : i < 2 ^ 32) :
    ofInt i = .ok (UInt32.ofNat i.toNat) := by
  rw [ofInt, if_neg (by omega), ofNat_of_lt (by omega)]

end Index

/-- An overflow names its index by the canonical numeral. -/
theorem EvalError.message_overflow {v : ℕ} (h : v < 2 ^ 64) :
    (EvalError.overflow (UInt64.ofNat v)).message
      = "fib(" ++ toString v
        ++ ") overflows a 64-bit unsigned integer (largest supported n is 93)" := by
  have htail : ") overflows a 64-bit unsigned integer " ++ "(largest supported n is "
      ++ Text.numeral maxIndex.toNat ++ ")"
      = ") overflows a 64-bit unsigned integer (largest supported n is 93)" := by
    decide +kernel
  -- `message` is opened by `change`: its equations would compare the texts by running them
  change "fib(" ++ Text.numeral (UInt64.ofNat v).toNat
    ++ ") overflows a 64-bit unsigned integer " ++ "(largest supported n is "
    ++ Text.numeral maxIndex.toNat ++ ")" = _
  rw [UInt64.toNat_ofNat_of_lt' h, Text.numeral_eq_toString, ← htail]
  simp only [String.append_assoc]

/-! ## Resolving with an index -/

namespace Settings

/-- The failure is that of an index, wherever it was given. -/
def Error.IsOfIndex : Error → Prop
  | .index _ => True
  | .fileIndex _ => True
  | _ => False

theorem not_isOfIndex_of_resolveAt {n : UInt32} {overrides : Overrides} {config : Config}
    {cause : Error} (h : resolveAt n overrides config = .error cause) : ¬ cause.IsOfIndex := by
  rcases resolveAt_eq_error h with ⟨fault, rfl⟩ | ⟨fault, rfl⟩
  · exact id
  · exact id

/-- The settings with a number given as the index on the command line, in decimal. -/
def resolveOption (v : Int64) (overrides : Overrides) (config : Config) :
    Except Error Settings :=
  resolve { overrides with n := some (toString v.toInt) } { config with n := none }

/-- The settings with a number given as the index in the configuration. -/
def resolveKey (v : Int64) (overrides : Overrides) (config : Config) : Except Error Settings :=
  resolve { overrides with n := none } { config with n := some v }

section
variable {v : Int64} {overrides : Overrides} {config : Config}

theorem resolveOption_of_error {cause : EvalError}
    (h : Index.parse (toString v.toInt) = .error cause) :
    resolveOption v overrides config = .error (.index cause) := by
  apply resolve_of_index_error
  simp only [resolveIndex, h]
  rfl

theorem resolveKey_of_error {cause : EvalError} (h : Index.ofInt v.toInt = .error cause) :
    resolveKey v overrides config = .error (.fileIndex cause) := by
  apply resolve_of_index_error
  simp only [resolveIndex, indexOfFile, h]
  rfl

/-- A number of thirty-two bits passes both checks, and the rest is the same. -/
theorem resolve_of_index (h : 0 ≤ v.toInt) (hlt : v.toInt < 2 ^ 32) :
    resolveOption v overrides config = resolveAt (UInt32.ofNat v.toInt.toNat) overrides config
    ∧ resolveKey v overrides config
      = resolveAt (UInt32.ofNat v.toInt.toNat) overrides config := by
  have hkey := Index.ofInt_of_lt h hlt
  have htext : Index.parse (toString v.toInt) = .ok (UInt32.ofNat v.toInt.toNat) := by
    rw [Index.parse_toString_of_nonneg h (by omega), hkey]
  constructor
  · apply resolve_of_index_ok
    simp only [resolveIndex, htext]
    rfl
  · apply resolve_of_index_ok
    simp only [resolveIndex, indexOfFile, hkey]
    rfl

theorem resolve_of_large_index (h : 2 ^ 32 ≤ v.toInt) :
    resolveOption v overrides config
      = .error (.index (.overflow (UInt64.ofNat v.toInt.toNat)))
    ∧ resolveKey v overrides config
      = .error (.fileIndex (.overflow (UInt64.ofNat v.toInt.toNat))) := by
  have hbound := v.toInt_lt
  have hkey := Index.ofInt_of_le h
  have htext : Index.parse (toString v.toInt)
      = .error (.overflow (UInt64.ofNat v.toInt.toNat)) := by
    rw [Index.parse_toString_of_nonneg (by omega) (by omega), hkey]
  exact ⟨resolveOption_of_error htext, resolveKey_of_error hkey⟩

theorem resolve_of_negative_index (h : v.toInt < 0) :
    resolveOption v overrides config
      = .error (.index (.invalidArgument ("'" ++ toString v.toInt ++ "' is negative")))
    ∧ resolveKey v overrides config
      = .error (.fileIndex (.invalidArgument (toString v.toInt ++ " is negative"))) :=
  ⟨resolveOption_of_error (Index.parse_toString_of_neg h),
    resolveKey_of_error (Index.ofInt_of_neg h)⟩

variable (v overrides config) in
/-- Either the two resolutions are one, or both fail at the index. -/
theorem resolve_eq_or_index_error :
    resolveOption v overrides config = resolveKey v overrides config
    ∨ ∃ byOption byKey, resolveOption v overrides config = .error byOption
      ∧ resolveKey v overrides config = .error byKey
      ∧ byOption.IsOfIndex ∧ byKey.IsOfIndex := by
  rcases lt_or_ge v.toInt 0 with hneg | hnonneg
  · obtain ⟨hoption, hkey⟩ := resolve_of_negative_index hneg
    exact .inr ⟨_, _, hoption, hkey, trivial, trivial⟩
  rcases lt_or_ge v.toInt (2 ^ 32) with hlt | hlarge
  · obtain ⟨hoption, hkey⟩ := resolve_of_index hnonneg hlt
    exact .inl (hoption.trans hkey.symm)
  · obtain ⟨hoption, hkey⟩ := resolve_of_large_index hlarge
    exact .inr ⟨_, _, hoption, hkey, trivial, trivial⟩

end

/-! ## Main statement -/

/-- For every number of sixty-four bits, signed, and whatever else the command line and
the configuration say. Given in decimal on the command line or as a key in the
configuration, the number leads to the same settings, or to a failure both times. A
failure that is not that of the index has the same message both times, and a number of
thirty-two bits has no other. A number above them is told as an overflow and a negative
one as negative, both by name, with the key in front where it came from the
configuration. -/
theorem resolve_index_by_option_or_key (v : Int64) (overrides : Overrides) (config : Config) :
    ((∃ settings, resolveOption v overrides config = .ok settings
        ∧ resolveKey v overrides config = .ok settings)
      ∨ ∃ byOption byKey, resolveOption v overrides config = .error byOption
        ∧ resolveKey v overrides config = .error byKey)
    ∧ (∀ byOption byKey, resolveOption v overrides config = .error byOption →
        resolveKey v overrides config = .error byKey →
        ¬ byOption.IsOfIndex ∨ ¬ byKey.IsOfIndex → byOption.message = byKey.message)
    ∧ (0 ≤ v.toInt → v.toInt < 2 ^ 32 →
        resolveOption v overrides config = resolveKey v overrides config
        ∧ ∀ cause, resolveOption v overrides config = .error cause → ¬ cause.IsOfIndex)
    ∧ (2 ^ 32 ≤ v.toInt →
        ∃ byOption byKey, resolveOption v overrides config = .error byOption
          ∧ resolveKey v overrides config = .error byKey
          ∧ byOption.message = "fib(" ++ toString v.toInt
              ++ ") overflows a 64-bit unsigned integer (largest supported n is 93)"
          ∧ byKey.message = "config key 'n': " ++ byOption.message)
    ∧ (v.toInt < 0 →
        ∃ byOption byKey, resolveOption v overrides config = .error byOption
          ∧ resolveKey v overrides config = .error byKey
          ∧ byOption.message = "invalid argument: '" ++ toString v.toInt ++ "' is negative"
          ∧ byKey.message
              = "config key 'n': invalid argument: " ++ toString v.toInt ++ " is negative") := by
  have hcases := resolve_eq_or_index_error v overrides config
  refine ⟨?_, ?_, ?_, ?_, ?_⟩
  · rcases hcases with heq | ⟨byOption, byKey, hoption, hkey, -, -⟩
    · rw [heq]
      rcases resolveKey v overrides config with cause | settings
      · exact .inr ⟨cause, cause, rfl, rfl⟩
      · exact .inl ⟨settings, rfl, rfl⟩
    · exact .inr ⟨byOption, byKey, hoption, hkey⟩
  · intro byOption byKey hoption hkey hother
    rcases hcases with heq | ⟨byOption', byKey', hoption', hkey', hofOption, hofKey⟩
    · rw [hoption, hkey] at heq
      rw [Except.error.inj heq]
    · obtain rfl := Except.error.inj (hoption'.symm.trans hoption)
      obtain rfl := Except.error.inj (hkey'.symm.trans hkey)
      rcases hother with hother | hother
      · exact absurd hofOption hother
      · exact absurd hofKey hother
  · intro hnonneg hlt
    obtain ⟨hoption, hkey⟩ := @resolve_of_index v overrides config hnonneg hlt
    refine ⟨hoption.trans hkey.symm, ?_⟩
    intro cause hcause
    exact not_isOfIndex_of_resolveAt (hoption.symm.trans hcause)
  · intro hlarge
    have hbound := v.toInt_lt
    obtain ⟨hoption, hkey⟩ := resolve_of_large_index hlarge
    refine ⟨_, _, hoption, hkey, ?_, rfl⟩
    have hmessage := EvalError.message_overflow (v := v.toInt.toNat) (by omega)
    have hname : toString v.toInt = toString v.toInt.toNat := by
      conv_lhs => rw [← Int.toNat_of_nonneg (show 0 ≤ v.toInt by omega)]
      rfl
    rw [hname]
    exact hmessage
  · intro hneg
    obtain ⟨hoption, hkey⟩ := resolve_of_negative_index hneg
    refine ⟨_, _, hoption, hkey, ?_, ?_⟩
    · change "invalid argument: " ++ ("'" ++ toString v.toInt ++ "' is negative") = _
      simp only [← String.append_assoc]
      rfl
    · change "config key 'n': " ++ ("invalid argument: " ++ (toString v.toInt ++ " is negative"))
        = _
      simp only [← String.append_assoc]
      rfl

/-- At the ends of the ranges: the least number, the first above thirty-two bits, and the
last of thirty-two bits with an algorithm that there is not. -/
theorem resolve_index_at_bounds :
    (∃ byOption byKey, resolveOption Int64.minValue {} {} = .error byOption
      ∧ resolveKey Int64.minValue {} {} = .error byKey
      ∧ byOption.message = "invalid argument: '-9223372036854775808' is negative"
      ∧ byKey.message
          = "config key 'n': invalid argument: -9223372036854775808 is negative")
    ∧ (∃ byOption byKey, resolveOption 4294967296 {} {} = .error byOption
      ∧ resolveKey 4294967296 {} {} = .error byKey
      ∧ byOption.message
          = "fib(4294967296) overflows a 64-bit unsigned integer (largest supported n is 93)"
      ∧ byKey.message = "config key 'n': " ++ byOption.message)
    ∧ resolveOption 4294967295 {} { algorithm := some "memo" }
        = resolveKey 4294967295 {} { algorithm := some "memo" } := by
  obtain ⟨-, -, -, -, hneg⟩ := resolve_index_by_option_or_key Int64.minValue {} {}
  obtain ⟨-, -, -, hlarge, -⟩ := resolve_index_by_option_or_key 4294967296 {} {}
  obtain ⟨-, -, hindex, -, -⟩ :=
    resolve_index_by_option_or_key 4294967295 {} { algorithm := some "memo" }
  refine ⟨?_, ?_, (hindex (by decide) (by decide)).1⟩
  · obtain ⟨byOption, byKey, hoption, hkey, hmessage, hmessage'⟩ := hneg (by decide)
    exact ⟨byOption, byKey, hoption, hkey, hmessage.trans (by decide +kernel),
      hmessage'.trans (by decide +kernel)⟩
  · obtain ⟨byOption, byKey, hoption, hkey, hmessage, hmessage'⟩ := hlarge (by decide)
    exact ⟨byOption, byKey, hoption, hkey, hmessage.trans (by decide +kernel), hmessage'⟩

end Settings
end Fibonacci
