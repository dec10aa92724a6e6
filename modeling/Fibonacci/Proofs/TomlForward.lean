/-
Reading goes forward.

No reader leaves more of a text than it was given, and one that has read a name leaves
less. The lemmas follow the readers from the smallest to the scalars, one for each, and
are tagged for `grind`: a reader that is made of others goes forward because they do.
-/
import Fibonacci.Toml.Document
import Mathlib.Data.List.Infix
import Mathlib.Data.Int.Notation

set_option autoImplicit false

namespace Fibonacci.Toml

/-! ## Blanks, comments and line ends -/

theorem length_skipGap_le (text : List Char) : (skipGap text).length ≤ text.length :=
  (List.dropWhile_suffix _).length_le

@[grind →]
theorem newline?_length_le {text rest : List Char} (h : newline? text = some rest) :
    rest.length ≤ text.length := by
  unfold newline? at h
  split at h <;> grind

@[grind →]
theorem lineEnd?_length_le {text rest : List Char} (h : lineEnd? text = some rest) :
    rest.length ≤ text.length := by
  unfold lineEnd? at h
  split at h <;> grind

theorem length_skipComment_le (text : List Char) : (skipComment text).length ≤ text.length := by
  unfold skipComment
  split
  · exact le_trans (List.dropWhile_suffix _).length_le (by simp)
  · exact le_rfl

@[grind →]
theorem trailing?_length_le {text rest : List Char} (h : trailing? text = some rest) :
    rest.length ≤ text.length := by
  have hcomment := length_skipComment_le (skipGap text)
  have hgap := length_skipGap_le text
  have hend := lineEnd?_length_le h
  omega

@[grind →]
theorem skipLines_length_le {inComment : Bool} {text rest : List Char}
    (h : skipLines inComment text = some rest) : rest.length ≤ text.length := by
  fun_induction skipLines inComment text <;> grind

/-! ## Quoted texts -/

@[grind →]
theorem prepend_eq_some {c : Char} {read : Option (List Char × List Char)} {body rest : List Char}
    (h : prepend c read = some (body, rest)) : ∃ more, read = some (more, rest) := by
  unfold prepend at h
  obtain ⟨⟨more, rest'⟩, hread, heq⟩ := Option.map_eq_some_iff.mp h
  exact ⟨more, by rw [hread, (Prod.mk.inj heq).2]⟩

@[grind →]
theorem basicBody_length_le {state : Option Escape} {text body rest : List Char}
    (h : basicBody state text = some (body, rest)) : rest.length ≤ text.length := by
  fun_induction basicBody state text generalizing body <;> grind

@[grind →]
theorem literalBody_length_le {text body rest : List Char}
    (h : literalBody text = some (body, rest)) : rest.length ≤ text.length := by
  fun_induction literalBody text generalizing body <;> grind

@[grind →]
theorem Style.body_length_le {style : Style} {place : Place} {text body rest : List Char}
    (h : style.body place text = some (body, rest)) : rest.length ≤ text.length := by
  fun_induction Style.body style place text generalizing body <;> grind [Option.map_eq_some_iff]

@[grind →]
theorem quotedLine?_length_lt {text body rest : List Char}
    (h : quotedLine? text = some (body, rest)) : rest.length < text.length := by
  unfold quotedLine? at h
  split at h <;> grind

@[grind →]
theorem Style.read_length_le {style : Style} {text body rest : List Char}
    (h : style.read text = some (body, rest)) : rest.length ≤ text.length := by
  unfold Style.read at h
  rcases hn : newline? text with _ | left <;> grind

@[grind →]
theorem quoted?_length_le {text body rest : List Char}
    (h : quoted? text = some (body, rest)) : rest.length ≤ text.length := by
  unfold quoted? at h
  split at h <;> grind

/-! ## Numbers -/

namespace Number

theorem length_moreDigits_le (isDigit : Char → Bool) (text : List Char) :
    (moreDigits isDigit text).2.length ≤ text.length := by
  fun_induction moreDigits isDigit text <;> grind

@[grind →]
theorem digits?_length_le {isDigit : Char → Bool} {text digits rest : List Char}
    (h : digits? isDigit text = some (digits, rest)) : rest.length ≤ text.length := by
  unfold digits? at h
  split at h
  · cases h
  · next c more =>
    have hmore := length_moreDigits_le isDigit more
    grind

@[grind →]
theorem decimal?_length_le {text digits rest : List Char}
    (h : decimal? text = some (digits, rest)) : rest.length ≤ text.length := by
  unfold decimal? at h
  split at h <;> grind

theorem length_sign_le (text : List Char) : (sign text).2.length ≤ text.length := by
  unfold sign
  split <;> simp

@[grind →]
theorem based?_length_le {base : ℕ} {isDigit : Char → Bool} {text rest : List Char} {value : ℤ}
    (h : based? base isDigit text = some (value, rest)) : rest.length ≤ text.length := by
  unfold based? at h
  grind [Option.bind_eq_some_iff]

@[grind →]
theorem integer?_length_le {text rest : List Char} {value : ℤ}
    (h : integer? text = some (value, rest)) : rest.length ≤ text.length := by
  unfold integer? at h
  split at h
  · grind
  · grind
  · grind
  · have hsign := length_sign_le text
    obtain ⟨⟨digits, left⟩, hdigits, h⟩ := Option.bind_eq_some_iff.mp h
    obtain ⟨value', -, h⟩ := Option.bind_eq_some_iff.mp h
    grind

@[grind →]
theorem exponent?_length_le {text rest : List Char} {value : ℤ}
    (h : exponent? text = some (value, rest)) : rest.length ≤ text.length := by
  unfold exponent? at h
  split at h
  · cases h
  · split at h
    · next c more _ =>
      have hsign := length_sign_le more
      obtain ⟨⟨digits, left⟩, hdigits, h⟩ := Option.bind_eq_some_iff.mp h
      grind
    · cases h

@[grind →]
theorem fraction?_length_le {text rest digits : List Char}
    (h : fraction? text = some (digits, rest)) : rest.length ≤ text.length := by
  unfold fraction? at h
  split at h <;> grind

@[grind →]
theorem decimalFloat?_length_le {text rest : List Char} {value : Binary64}
    (h : decimalFloat? text = some (value, rest)) : rest.length ≤ text.length := by
  unfold decimalFloat? at h
  have hsign := length_sign_le text
  obtain ⟨⟨whole, left⟩, hwhole, h⟩ := Option.bind_eq_some_iff.mp h
  dsimp only at h
  split at h
  · next places left' hplaces =>
    obtain ⟨value', -, h⟩ := Option.bind_eq_some_iff.mp h
    rcases hexponent : exponent? left' with _ | ⟨exponent, left''⟩ <;> grind
  · obtain ⟨⟨exponent, left'⟩, hexponent, h⟩ := Option.bind_eq_some_iff.mp h
    obtain ⟨value', -, h⟩ := Option.bind_eq_some_iff.mp h
    grind

@[grind →]
theorem namedFloat?_length_le {text rest : List Char} {value : Binary64}
    (h : namedFloat? text = some (value, rest)) : rest.length ≤ text.length := by
  have hsign := length_sign_le text
  unfold namedFloat? at h
  grind

@[grind →]
theorem float?_length_le {text rest : List Char} {value : Binary64}
    (h : float? text = some (value, rest)) : rest.length ≤ text.length := by
  unfold float? at h
  grind [Option.or_eq_some_iff]

end Number

/-! ## Dates and times -/

namespace Moment

@[grind →]
theorem number?_length_le {width value : ℕ} {text rest : List Char}
    (h : number? width text = some (value, rest)) : rest.length ≤ text.length := by
  unfold number? at h
  dsimp only at h
  split at h
  · obtain ⟨-, rfl⟩ := Prod.mk.inj (Option.some.inj h)
    simp
  · cases h

@[grind →]
theorem pair?_length_le {least most value : ℕ} {text rest : List Char}
    (h : pair? least most text = some (value, rest)) : rest.length ≤ text.length := by
  unfold pair? at h
  split at h
  · next hnumber =>
    have hrest := number?_length_le hnumber
    grind
  · cases h

@[grind →]
theorem mark?_length_le {c : Char} {text rest : List Char} (h : mark? c text = some rest) :
    rest.length ≤ text.length := by
  unfold mark? at h
  split at h <;> grind

@[grind →]
theorem date?_length_le {text rest : List Char} (h : date? text = some rest) :
    rest.length ≤ text.length := by
  unfold date? at h
  simp only [Option.bind_eq_bind, Option.bind_eq_some_iff, Option.pure_def, Prod.exists,
    Option.some.injEq] at h
  obtain ⟨year, text₁, h₁, text₂, h₂, month, text₃, h₃, text₄, h₄, day, text₅, h₅, rfl⟩ := h
  grind

@[grind →]
theorem fraction?_length_le {text rest : List Char} (h : fraction? text = some rest) :
    rest.length ≤ text.length := by
  unfold fraction? at h
  split at h
  · next more =>
    have hmore : (more.dropWhile Text.isDigit).length ≤ more.length :=
      (List.dropWhile_suffix _).length_le
    grind
  · grind

@[grind →]
theorem time?_length_le {text rest : List Char} (h : time? text = some rest) :
    rest.length ≤ text.length := by
  unfold time? at h
  simp only [Option.bind_eq_bind, Option.bind_eq_some_iff, Prod.exists] at h
  obtain ⟨hour, text₁, h₁, text₂, h₂, minute, text₃, h₃, text₄, h₄, second, text₅, h₅, h₆⟩ := h
  grind

@[grind →]
theorem offset?_length_le {text rest : List Char} (h : offset? text = some rest) :
    rest.length ≤ text.length := by
  unfold offset? at h
  split at h
  · grind
  · grind
  · split at h
    · simp only [Option.bind_eq_bind, Option.bind_eq_some_iff, Option.pure_def, Prod.exists,
        Option.some.injEq] at h
      obtain ⟨hour, text₁, h₁, text₂, h₂, minute, text₃, h₃, rfl⟩ := h
      grind
    · cases h
  · cases h

@[grind →]
theorem timeOfDay?_length_le {text rest : List Char} (h : timeOfDay? text = some rest) :
    rest.length ≤ text.length := by
  unfold timeOfDay? at h
  split at h
  · split at h
    · obtain ⟨left, htime, rfl⟩ := Option.map_eq_some_iff.mp h
      rcases hoffset : offset? left with _ | left' <;> grind
    · cases h
  · cases h

@[grind →]
theorem skip?_length_le {text rest : List Char} (h : skip? text = some rest) :
    rest.length ≤ text.length := by
  unfold skip? at h
  split at h
  · next left hdate =>
    rcases htime : timeOfDay? left with _ | left' <;> grind
  · grind

end Moment

/-! ## Names and scalars -/

@[grind →]
theorem bareName?_length_lt {text name rest : List Char}
    (h : bareName? text = some (name, rest)) : rest.length < text.length := by
  unfold bareName? at h
  split at h
  · cases h
  · next hne =>
    obtain ⟨-, rfl⟩ := Prod.mk.inj (Option.some.inj h)
    have hsplit := congrArg List.length (List.takeWhile_append_dropWhile (p := isBare) (l := text))
    have hpos : 0 < (text.takeWhile isBare).length := by
      rw [List.length_pos_iff]
      intro hnil
      exact hne (by rw [hnil]; rfl)
    rw [List.length_append] at hsplit
    omega

@[grind →]
theorem name?_length_lt {text name rest : List Char} (h : name? text = some (name, rest)) :
    rest.length < text.length := by
  unfold name? at h
  split at h <;> grind

@[grind →]
theorem numeric?_length_le {text rest : List Char} {node : Node}
    (h : numeric? text = some (node, rest)) : rest.length ≤ text.length := by
  unfold numeric? at h
  split at h
  · grind
  · split at h
    · grind
    · obtain ⟨⟨value, left⟩, hinteger, heq⟩ := Option.map_eq_some_iff.mp h
      grind

@[grind →]
theorem scalar_length_le {text rest : List Char} {node : Node}
    (h : scalar text = some (node, rest)) : rest.length ≤ text.length := by
  unfold scalar at h
  split at h
  · cases h
  · split at h
    · obtain ⟨⟨body, left⟩, hquoted, heq⟩ := Option.map_eq_some_iff.mp h
      grind
    · split at h
      · grind
      · split at h
        · grind
        · grind
        · obtain ⟨⟨value, left⟩, hfloat, heq⟩ := Option.map_eq_some_iff.mp h
          grind

end Fibonacci.Toml
