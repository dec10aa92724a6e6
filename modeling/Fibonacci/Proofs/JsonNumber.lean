/-
Numbers in JSON, written and read back.

A JSON number has up to four parts: a minus, the digits before the point, the digits
behind it and an exponent. `Spells` says that a text is put together from such parts and
which number they are; the reader then finds exactly these parts wherever the text is
followed by something that is no part of a number (`number?_append`). So what is left to
show of a text that the program writes is how it is put together, and the reader need
not be looked at again.

There are two kinds of such texts. A natural number is its numeral, and that only the
numeral of zero starts with a zero is what the format asks for. A finite double is laid
out from its shortest decimal in one of four ways. Two of them put zeros or digits of the
coefficient before the point, and the format's rule on leading zeros holds there because
the coefficient is zero only for the double zero, whose exponent is zero too.
-/
import Fibonacci.Proofs.JsonReader
import Fibonacci.Proofs.Numeral
import Fibonacci.Report.Json

set_option autoImplicit false

namespace Fibonacci.Json

/-! ## The parts of a number -/

/-- Digits only, and at least one of them. -/
def IsRun (text : List Char) : Prop := text ≠ [] ∧ ∀ c ∈ text, Text.isDigit c = true

/-- Digits that can stand before the point: a zero comes first only if it is alone. -/
def IsWhole (text : List Char) : Prop :=
  IsRun text ∧ (text.head? = some '0' → text = ['0'])

/-- The part behind the whole digits, point included, and its digits. -/
inductive Fraction : List Char → List Char → Prop
  | absent : Fraction [] []
  | present {places : List Char} (run : IsRun places) : Fraction ('.' :: places) places

/-- The exponent with its mark, and its value. -/
inductive Power : List Char → ℤ → Prop
  | absent : Power [] 0
  | plus {digits : List Char} (run : IsRun digits) :
      Power ('e' :: '+' :: digits) (Text.valueOf digits)
  | minus {digits : List Char} (run : IsRun digits) :
      Power ('e' :: '-' :: digits) (-(Text.valueOf digits : ℤ))

/-- The text is put together from the parts of the number. -/
inductive Spells : List Char → Number → Prop
  | parts {whole fraction places power : List Char} {exponent : ℤ} (negative : Bool)
      (isWhole : IsWhole whole) (isFraction : Fraction fraction places)
      (isPower : Power power exponent) :
      Spells ((if negative then ['-'] else []) ++ whole ++ fraction ++ power)
        ⟨negative, Text.valueOf (whole ++ places), exponent - places.length⟩

/-- A character after which a member of an object is over. -/
def EndsMember (c : Char) : Prop := c = ',' ∨ c = '\x7d'

/-! ## Reading the parts -/

theorem digits?_append {run : List Char} (hrun : IsRun run) {c : Char}
    (hc : Text.isDigit c = false) (rest : List Char) :
    digits? (run ++ c :: rest) = some (run, c :: rest) := by
  have htake : (run ++ c :: rest).takeWhile Text.isDigit = run := by
    rw [List.takeWhile_append_of_pos hrun.2, List.takeWhile_cons_of_neg (by rw [hc]; decide),
      List.append_nil]
  have hdrop : (run ++ c :: rest).dropWhile Text.isDigit = c :: rest := by
    rw [List.dropWhile_append_of_pos hrun.2, List.dropWhile_cons_of_neg (by rw [hc]; decide)]
  have hne : ¬ run.isEmpty = true := by
    rw [List.isEmpty_iff]
    exact hrun.1
  rw [digits?, htake, hdrop, if_neg hne]

theorem whole?_append {whole : List Char} (hwhole : IsWhole whole) {c : Char}
    (hc : Text.isDigit c = false) (rest : List Char) :
    whole? (whole ++ c :: rest) = some (whole, c :: rest) := by
  obtain ⟨hrun, hzero⟩ := hwhole
  obtain ⟨first, more, rfl⟩ := List.exists_cons_of_ne_nil hrun.1
  by_cases hfirst : first = '0'
  · subst hfirst
    rw [hzero rfl]
    rfl
  · have hother : whole? (first :: (more ++ c :: rest))
        = digits? (first :: (more ++ c :: rest)) := by
      unfold whole?
      split
      · rename_i heq
        exact absurd (List.cons.inj heq).1 hfirst
      · rfl
    rw [List.cons_append, hother]
    exact digits?_append hrun hc rest

/-- What comes after the whole digits starts with no digit. -/
theorem Fraction.head_append {fraction places power : List Char} {exponent : ℤ}
    (hfraction : Fraction fraction places) (hpower : Power power exponent) {c : Char}
    (hc : EndsMember c) (rest : List Char) :
    ∃ d more, fraction ++ power ++ c :: rest = d :: more ∧ Text.isDigit d = false := by
  cases hfraction with
  | present run => exact ⟨'.', _, rfl, by decide⟩
  | absent =>
    cases hpower with
    | plus run => exact ⟨'e', _, rfl, by decide⟩
    | minus run => exact ⟨'e', _, rfl, by decide⟩
    | absent =>
      rcases hc with rfl | rfl
      · exact ⟨',', _, rfl, by decide⟩
      · exact ⟨'\x7d', _, rfl, by decide⟩

theorem fraction?_append {fraction places power : List Char} {exponent : ℤ}
    (hfraction : Fraction fraction places) (hpower : Power power exponent) {c : Char}
    (hc : EndsMember c) (rest : List Char) :
    fraction? (fraction ++ (power ++ c :: rest)) = some (places, power ++ c :: rest) := by
  cases hfraction with
  | absent =>
    cases hpower with
    | plus run => rfl
    | minus run => rfl
    | absent =>
      rcases hc with rfl | rfl
      · rfl
      · rfl
  | present run =>
    obtain ⟨d, more, hmore, hd⟩ := Fraction.head_append .absent hpower hc rest
    rw [List.nil_append] at hmore
    change digits? (places ++ (power ++ c :: rest)) = _
    rw [hmore]
    exact digits?_append run hd more

theorem exponent?_append {power : List Char} {exponent : ℤ} (hpower : Power power exponent)
    {c : Char} (hc : EndsMember c) (rest : List Char) :
    exponent? (power ++ c :: rest) = some (exponent, c :: rest) := by
  have hdigit : Text.isDigit c = false := by
    rcases hc with rfl | rfl
    · decide
    · decide
  cases hpower with
  | absent =>
    rcases hc with rfl | rfl
    · rfl
    · rfl
  | @plus digits run =>
    have hdigits := digits?_append run hdigit rest
    change ((digits? (digits ++ c :: rest)).bind fun read =>
      some ((Text.valueOf read.1 : ℤ), read.2)) = _
    rw [hdigits]
    rfl
  | @minus digits run =>
    have hdigits := digits?_append run hdigit rest
    change ((digits? (digits ++ c :: rest)).bind fun read =>
      some (-(Text.valueOf read.1 : ℤ), read.2)) = _
    rw [hdigits]
    rfl

theorem minus_append {whole : List Char} (hwhole : IsWhole whole) (negative : Bool)
    (rest : List Char) :
    minus ((if negative then ['-'] else []) ++ (whole ++ rest)) = (negative, whole ++ rest) := by
  cases negative with
  | true => rfl
  | false =>
    obtain ⟨first, more, rfl⟩ := List.exists_cons_of_ne_nil hwhole.1.1
    have hfirst : first ≠ '-' := by
      rintro rfl
      have hdigit := hwhole.1.2 '-' List.mem_cons_self
      revert hdigit
      decide
    change minus (first :: (more ++ rest)) = _
    unfold minus
    split
    · rename_i heq
      exact absurd (List.cons.inj heq).1 hfirst
    · rfl

/-- A text that spells a number is read as that number, up to the end of its member. -/
theorem number?_append {text : List Char} {x : Number} (h : Spells text x) {c : Char}
    (hc : EndsMember c) (rest : List Char) :
    number? (text ++ c :: rest) = some (x, c :: rest) := by
  obtain ⟨negative, isWhole, isFraction, isPower⟩ := h
  rename_i whole fraction places power exponent
  obtain ⟨d, more, hmore, hd⟩ := isFraction.head_append isPower hc rest
  have hminus := minus_append isWhole negative (fraction ++ power ++ c :: rest)
  have hwhole : whole? (whole ++ (fraction ++ power ++ c :: rest))
      = some (whole, fraction ++ (power ++ c :: rest)) := by
    rw [hmore, whole?_append isWhole hd more, ← hmore, List.append_assoc]
  unfold number?
  simp only [List.append_assoc] at hminus hwhole ⊢
  simp only [hminus, hwhole, fraction?_append isFraction isPower hc rest,
    exponent?_append isPower hc rest, Option.bind_eq_bind, Option.bind_some]
  rfl

/-- A number starts with a digit or with a minus. -/
theorem Spells.head {text : List Char} {x : Number} (h : Spells text x) :
    ∃ d more, text = d :: more ∧ (d = '-' ∨ Text.isDigit d = true) := by
  obtain ⟨negative, isWhole, isFraction, isPower⟩ := h
  rename_i whole fraction places power exponent
  cases negative with
  | true => exact ⟨'-', _, rfl, .inl rfl⟩
  | false =>
    obtain ⟨first, more, rfl⟩ := List.exists_cons_of_ne_nil isWhole.1.1
    exact ⟨first, _, rfl, .inr (isWhole.1.2 first List.mem_cons_self)⟩

/-! ## Natural numbers -/

theorem isRun_digits (n : ℕ) : IsRun (Text.digits n) :=
  ⟨Text.digits_ne_nil n, fun _ hc => Text.isDigit_of_mem_digits hc⟩

theorem isWhole_digits (n : ℕ) : IsWhole (Text.digits n) := by
  refine ⟨isRun_digits n, ?_⟩
  intro hhead
  rw [Text.eq_zero_of_head?_digits hhead]
  exact Text.digits_zero

/-- A numeral spells its number. -/
theorem spells_digits (n : ℕ) : Spells (Text.digits n) (.ofNat n) := by
  have h := Spells.parts false (isWhole_digits n) .absent .absent
  simpa [Text.valueOf_digits, Number.ofNat] using h

end Fibonacci.Json

/-! ## The coefficient of a shortest decimal -/

namespace Fibonacci

theorem Decimal.stripZeros_coefficient_ne_zero {d : Decimal} (h : d.coefficient ≠ 0) :
    d.stripZeros.coefficient ≠ 0 := by
  fun_induction Decimal.stripZeros d with
  | case1 d hzeros ih =>
    have htenth : d.coefficient / 10 ≠ 0 := by omega
    exact ih htenth
  | case2 d hzeros => exact h

theorem Decimal.le_nearest (tie : Decimal.Tie) (num den : ℕ) :
    num / den ≤ Decimal.nearest tie num den := by
  unfold Decimal.nearest
  dsimp only
  split
  · exact le_rfl
  · split
    · omega
    · split
      · omega
      · exact le_rfl

namespace Binary64.Magnitude

/-- Zero is no point of the interval of a magnitude other than zero: the lower end is
above it. -/
theorem ne_zero_of_contains {x : Magnitude} (hx : x.significand ≠ 0) {step : ℤ} {point : ℕ}
    (h : (x.onGrid step).contains point = true) : point ≠ 0 := by
  have hunit : 0 < Nat.pow 2 x.exponent.toNat * Nat.pow 10 (-step).toNat :=
    Nat.mul_pos (Nat.pow_pos (by decide)) (Nat.pow_pos (by decide))
  have hlower : 0 < (x.onGrid step).lower := by
    refine Nat.mul_pos ?_ hunit
    split <;> omega
  rintro rfl
  unfold OnGrid.contains at h
  split at h
  · have hends := of_decide_eq_true h
    omega
  · have hends := of_decide_eq_true h
    omega

theorem ne_zero_of_select {x : Magnitude} (hx : x.significand ≠ 0) {tie : Decimal.Tie}
    {step : ℤ} {point : ℕ} (h : (x.onGrid step).select tie = some point) : point ≠ 0 := by
  unfold OnGrid.select at h
  dsimp only at h
  split at h
  · -- both neighbours are in the interval, and the nearest is not below the lower one
    rename_i hbelow habove
    have hne := ne_zero_of_contains hx hbelow
    have hle := Decimal.le_nearest tie (x.onGrid step).value (x.onGrid step).den
    rw [← Option.some.inj h]
    exact Nat.ne_of_gt (Nat.lt_of_lt_of_le (Nat.pos_of_ne_zero hne) hle)
  · rename_i hbelow habove
    rw [← Option.some.inj h]
    exact ne_zero_of_contains hx hbelow
  · rw [← Option.some.inj h]
    exact Nat.succ_ne_zero _
  · cases h

/-- A coefficient of zero comes with an exponent of zero. -/
theorem shortest_exponent_eq_zero {x : Magnitude} {tie : Decimal.Tie}
    (h : (x.shortest tie).coefficient = 0) : (x.shortest tie).exponent = 0 := by
  by_cases hx : x.significand = 0
  · rw [shortest, if_pos hx]
  · exfalso
    revert h
    rw [shortest, if_neg hx]
    apply Decimal.stripZeros_coefficient_ne_zero
    generalize hfound : List.findSome? _ (List.range 17) = found
    cases found with
    | none =>
      -- no grid was fine enough, and all digits of the magnitude are taken
      refine Nat.mul_ne_zero (Nat.mul_ne_zero hx ?_) ?_
      · exact (Nat.pow_pos (by decide)).ne'
      · exact (Nat.pow_pos (by decide)).ne'
    | some d =>
      obtain ⟨more, -, hmore⟩ := List.exists_of_findSome?_eq_some hfound
      obtain ⟨point, hpoint, rfl⟩ := Option.map_eq_some_iff.mp hmore
      exact ne_zero_of_select hx hpoint

end Binary64.Magnitude
end Fibonacci

/-! ## Doubles -/

namespace Fibonacci.Json

theorem isDigit_of_mem_zeros {n : ℕ} {c : Char} (h : c ∈ Decimal.zeros n) :
    Text.isDigit c = true := by
  rw [List.eq_of_mem_replicate h]
  decide

theorem isRun_append_zeros {run : List Char} (hrun : IsRun run) (n : ℕ) :
    IsRun (run ++ Decimal.zeros n) := by
  refine ⟨by simp [hrun.1], ?_⟩
  intro c hc
  rcases List.mem_append.mp hc with hc | hc
  · exact hrun.2 c hc
  · exact isDigit_of_mem_zeros hc

theorem isRun_zeros_append {run : List Char} (hrun : IsRun run) (n : ℕ) :
    IsRun (Decimal.zeros n ++ run) := by
  refine ⟨by simp [hrun.1], ?_⟩
  intro c hc
  rcases List.mem_append.mp hc with hc | hc
  · exact isDigit_of_mem_zeros hc
  · exact hrun.2 c hc

/-- A run whose first character is that of a numeral other than that of zero can stand
before the point. -/
theorem isWhole_of_head? {n : ℕ} (hn : n ≠ 0) {text : List Char} (hrun : IsRun text)
    (hhead : text.head? = (Text.digits n).head?) : IsWhole text := by
  refine ⟨hrun, ?_⟩
  intro hzero
  rw [hhead] at hzero
  exact absurd (Text.eq_zero_of_head?_digits hzero) hn

/-- The number written out in full: three ways, by where the point falls. -/
theorem exists_spells_plain {d : Decimal} (hd : d.coefficient = 0 → d.exponent = 0)
    (negative : Bool) :
    ∃ x, Spells ((if negative then ['-'] else []) ++ d.plain) x := by
  have hrun := isRun_digits d.coefficient
  unfold Decimal.plain
  dsimp only
  by_cases hexponent : 0 ≤ d.exponent
  · -- all digits and more zeros before the point, one zero behind it
    rw [if_pos hexponent]
    have hwhole : IsWhole (Text.digits d.coefficient ++ Decimal.zeros d.exponent.toNat) := by
      by_cases hzero : d.coefficient = 0
      · rw [hzero, hd hzero]
        simpa [Decimal.zeros] using isWhole_digits 0
      · apply isWhole_of_head? hzero
        · exact isRun_append_zeros hrun _
        · rw [List.head?_append, List.head?_eq_some_head hrun.1, Option.some_or]
    have hplaces : IsRun ['0'] := by
      rw [← Text.digits_zero]
      exact isRun_digits 0
    have h := Spells.parts negative hwhole (.present hplaces) .absent
    exact ⟨_, by simpa using h⟩
  · rw [if_neg hexponent]
    have hne : d.coefficient ≠ 0 := by
      intro hzero
      rw [hd hzero] at hexponent
      exact hexponent le_rfl
    by_cases hplaces : d.exponent.natAbs < (Text.digits d.coefficient).length
    · -- the point falls between two digits
      rw [if_pos hplaces]
      obtain ⟨k, hk⟩ : ∃ k, (Text.digits d.coefficient).length - d.exponent.natAbs = k + 1 :=
        ⟨_, (Nat.succ_pred_eq_of_pos (by omega)).symm⟩
      rw [hk]
      have hwhole : IsWhole ((Text.digits d.coefficient).take (k + 1)) := by
        apply isWhole_of_head? hne
        · refine ⟨?_, fun c hc => hrun.2 c (List.mem_of_mem_take hc)⟩
          simp [hrun.1]
        · rw [List.head?_take, if_neg (by omega)]
      have hrest : IsRun ((Text.digits d.coefficient).drop (k + 1)) := by
        refine ⟨?_, fun c hc => hrun.2 c (List.mem_of_mem_drop hc)⟩
        rw [ne_eq, List.drop_eq_nil_iff]
        omega
      have h := Spells.parts negative hwhole (.present hrest) .absent
      exact ⟨_, by simpa using h⟩
    · -- all digits are behind the point, with zeros before them
      rw [if_neg hplaces]
      have hrest := isRun_zeros_append hrun
        (d.exponent.natAbs - (Text.digits d.coefficient).length)
      have h := Spells.parts negative (isWhole_digits 0) (.present hrest) .absent
      rw [Text.digits_zero] at h
      exact ⟨_, by simpa using h⟩

/-- One digit, a point if more follow, and an exponent with its sign. -/
theorem exists_spells_scientific (d : Decimal) (negative : Bool) :
    ∃ x, Spells ((if negative then ['-'] else []) ++ d.scientific ['+']) x := by
  have hrun := isRun_digits d.coefficient
  obtain ⟨exponent, hpower⟩ : ∃ exponent,
      Power ('e' :: Decimal.signedPower ['+'] d.leadingPower) exponent := by
    unfold Decimal.signedPower
    split
    · exact ⟨_, .minus (isRun_digits _)⟩
    · exact ⟨_, .plus (isRun_digits _)⟩
  obtain ⟨first, more, hdigits⟩ := List.exists_cons_of_ne_nil hrun.1
  rw [hdigits] at hrun
  have hwhole : IsWhole [first] := by
    refine ⟨⟨by simp, ?_⟩, ?_⟩
    · intro c hc
      rw [List.mem_singleton.mp hc]
      exact hrun.2 first List.mem_cons_self
    · intro hhead
      rw [Option.some.inj hhead]
  unfold Decimal.scientific
  rw [hdigits]
  cases more with
  | nil =>
    have h := Spells.parts negative hwhole .absent hpower
    rw [List.append_nil, List.append_nil, List.append_assoc] at h
    exact ⟨_, h⟩
  | cons second more =>
    have hmore : IsRun (second :: more) :=
      ⟨by simp, fun c hc => hrun.2 c (List.mem_cons_of_mem _ hc)⟩
    have h := Spells.parts negative hwhole (.present hmore) hpower
    rw [List.append_assoc, List.append_assoc] at h
    exact ⟨_, h⟩

/-- A finite double is written as a number. -/
theorem exists_spells_number {x : Binary64} {magnitude : Binary64.Magnitude}
    (h : x.kind = .finite magnitude) : ∃ y, Spells (Report.Json.number x) y := by
  have htext : Report.Json.number x = (if x.isNegative then ['-'] else [])
      ++ (magnitude.shortest .toEven).layOut Report.Json.numberLayout := by
    rw [Report.Json.number, Binary64.natural?, h]
    rfl
  rw [htext, Decimal.layOut]
  by_cases hplain : Report.Json.numberLayout.isPlain (magnitude.shortest .toEven).leadingPower
  · rw [if_pos hplain]
    exact exists_spells_plain Binary64.Magnitude.shortest_exponent_eq_zero _
  · rw [if_neg hplain]
    exact exists_spells_scientific _ _

theorem number_of_not_finite {x : Binary64}
    (h : ∀ magnitude, x.kind ≠ .finite magnitude) :
    Report.Json.number x = "null".toList := by
  rw [Report.Json.number, Binary64.natural?]
  split
  · rename_i magnitude hkind
    exact absurd hkind (h magnitude)
  · rfl

end Fibonacci.Json
