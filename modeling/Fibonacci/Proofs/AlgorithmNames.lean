/-
The names of the algorithms.

An algorithm is named by the letters of its name, small or capital, with blanks around them.
That is said here by two relations that mention no reading function: `Lowers` takes an ASCII
capital to the small letter thirty-two places further on and leaves every other character
where it is, and `Recases` writes each letter of a name as it is or as its capital. A text
names an algorithm exactly if lowering takes it to the name (`isNamed_iff`), and every casing
of the name is such a text (`isNamed_of_recases`).

Characters beyond ASCII stay what they are, so none of them stands for a letter, however much
it looks like one or folds to one in another alphabet. And since the names differ, no text
names two algorithms; it makes no difference which of them is tried first.
-/
import Fibonacci.Algorithm
import Fibonacci.Proofs.Trimming
import Mathlib.Data.List.Forall2

set_option autoImplicit false

namespace Fibonacci.Algorithm

/-! ## Casing -/

/-- The first character is the ASCII capital of the second. -/
structure CapitalOf (c d : Char) : Prop where
  low : 'A' ≤ c
  high : c ≤ 'Z'
  value : d.toNat = c.toNat + 32

/-- The second character is the first with an ASCII capital lowered. -/
inductive Lowers : Char → Char → Prop
  | capital {c d : Char} (capital : CapitalOf c d) : Lowers c d
  | other {c : Char} (other : ¬ ('A' ≤ c ∧ c ≤ 'Z')) : Lowers c c

/-- The text has the letters of the name, each as it stands there or as its capital. -/
def Recases (text name : List Char) : Prop :=
  List.Forall₂ (fun c d => c = d ∨ CapitalOf c d) text name

theorem capitalOf_toLower {c : Char} (h : 'A' ≤ c ∧ c ≤ 'Z') : CapitalOf c c.toLower := by
  refine ⟨h.1, h.2, ?_⟩
  have hhigh : c.toNat ≤ 90 := h.2
  have hlower : c.toLower = _ := dif_pos ⟨h.1, h.2⟩
  rw [hlower]
  change (c.val + 32).toNat = c.toNat + 32
  rw [UInt32.toNat_add]
  change (c.toNat + 32) % 2 ^ 32 = c.toNat + 32
  omega

theorem CapitalOf.toLower_eq {c d : Char} (h : CapitalOf c d) : c.toLower = d := by
  apply Char.toNat_inj.mp
  rw [(capitalOf_toLower ⟨h.low, h.high⟩).value, h.value]

theorem lowers_iff {c d : Char} : Lowers c d ↔ c.toLower = d := by
  constructor
  · intro h
    cases h with
    | capital capital => exact capital.toLower_eq
    | other other => exact dif_neg other
  · rintro rfl
    by_cases h : 'A' ≤ c ∧ c ≤ 'Z'
    · exact .capital (capitalOf_toLower h)
    · have hsame : c.toLower = c := dif_neg h
      rw [hsame]
      exact .other h

/-- A text names an algorithm exactly if it is the name once its capitals are lowered. -/
theorem isNamed_iff {text : List Char} {a : Algorithm} :
    isNamed text a = true ↔ List.Forall₂ Lowers text a.name.toList := by
  have hlowers : Lowers = fun c d => c.toLower = d := by
    funext c d
    exact propext lowers_iff
  rw [isNamed, beq_iff_eq, hlowers, ← List.forall₂_map_left_iff, List.forall₂_eq_eq_eq]

/-! ## The letters of the names -/

/-- The names are written in small ASCII letters; neither such a letter nor its capital is
blank. -/
theorem letter_of_mem_name {a : Algorithm} {d : Char} (h : d ∈ a.name.toList) :
    d.toLower = d ∧ d.toNat < 128 ∧ Text.isBlank d = false
      ∧ Text.isBlank (Char.ofNat (d.toNat - 32)) = false := by
  have hletters : ∀ a : Algorithm, a.name.toList.all (fun d => decide
      (d.toLower = d ∧ d.toNat < 128 ∧ Text.isBlank d = false
        ∧ Text.isBlank (Char.ofNat (d.toNat - 32)) = false)) = true := by
    intro a
    cases a <;> decide
  exact of_decide_eq_true (List.all_eq_true.mp (hletters a) d h)

/-- What is lowered to a letter of a name is that letter or its capital, and so an ASCII
character that is not blank. -/
theorem ascii_of_lowers {a : Algorithm} {c d : Char} (h : Lowers c d) (hd : d ∈ a.name.toList) :
    c.toNat < 128 ∧ Text.isBlank c = false := by
  obtain ⟨-, hascii, hsmall, hcapital⟩ := letter_of_mem_name hd
  cases h with
  | capital capital =>
    rw [capital.value] at hascii hcapital
    rw [Nat.add_sub_cancel, Char.ofNat_toNat] at hcapital
    exact ⟨by omega, hcapital⟩
  | other _ => exact ⟨hascii, hsmall⟩

/-- A text that names an algorithm has nothing but such characters. -/
theorem ascii_of_isNamed {text : List Char} {a : Algorithm} (h : isNamed text a = true) :
    ∀ c ∈ text, c.toNat < 128 ∧ Text.isBlank c = false := by
  intro c hc
  have hmem : c.toLower ∈ a.name.toList := by
    rw [← beq_iff_eq.mp h]
    exact List.mem_map_of_mem hc
  exact ascii_of_lowers (lowers_iff.mpr rfl) hmem

/-- However the letters of a name are cased, the text names the algorithm. -/
theorem isNamed_of_recases {text : List Char} {a : Algorithm} (h : Recases text a.name.toList) :
    isNamed text a = true := by
  have hlower : List.Forall₂ (fun c d => c.toLower = d) text a.name.toList := by
    rw [Recases, List.forall₂_iff_zip] at h
    refine List.forall₂_iff_zip.mpr ⟨h.1, ?_⟩
    intro c d hmem
    -- a character that stands for itself has to be one that lowering leaves alone, and that
    -- is known of the letters of a name only
    rcases h.2 hmem with rfl | capital
    · exact (letter_of_mem_name (List.of_mem_zip hmem).2).1
    · exact capital.toLower_eq
  rw [isNamed, beq_iff_eq, ← List.forall₂_eq_eq_eq, List.forall₂_map_left_iff]
  exact hlower

/-! ## The order of trial -/

/-- No text names two algorithms. -/
theorem eq_of_isNamed {text : List Char} {a b : Algorithm} (ha : isNamed text a = true)
    (hb : isNamed text b = true) : a = b := by
  rw [isNamed, beq_iff_eq] at ha hb
  have hnames : a.name.toList = b.name.toList := by rw [← ha, hb]
  cases a <;> cases b
  · rfl
  · exact absurd hnames (by decide)
  · exact absurd hnames (by decide)
  · rfl

/-- Reads an algorithm's name with the algorithms tried in the order given. -/
def parseIn (order : List Algorithm) (text : String) : Except EvalError Algorithm :=
  match order.find? (isNamed (Text.trim text.toList)) with
  | some a => .ok a
  | none => .error (unknown (Text.trim text.toList))

theorem parseIn_all (text : String) : parseIn all text = parse text := rfl

/-- In any order that leaves none out, the one that is named is found. -/
theorem find?_isNamed_eq_some_iff {order : List Algorithm} (complete : ∀ a, a ∈ order)
    {text : List Char} {a : Algorithm} :
    order.find? (isNamed text) = some a ↔ isNamed text a = true := by
  constructor
  · exact List.find?_some
  · intro h
    -- some algorithm is found, it is named, and no other than `a` is
    obtain ⟨b, hb⟩ := Option.isSome_iff_exists.mp (List.find?_isSome.mpr ⟨a, complete a, h⟩)
    rw [hb, eq_of_isNamed (List.find?_some hb) h]

theorem mem_all (a : Algorithm) : a ∈ all := by
  cases a <;> decide

theorem parseIn_eq_parse {order : List Algorithm} (complete : ∀ a, a ∈ order) (text : String) :
    parseIn order text = parse text := by
  have hfind : order.find? (isNamed (Text.trim text.toList))
      = all.find? (isNamed (Text.trim text.toList)) := by
    apply Option.ext
    intro a
    rw [find?_isNamed_eq_some_iff complete, find?_isNamed_eq_some_iff mem_all]
  rw [← parseIn_all, parseIn, parseIn, hfind]

/-! ## Reading -/

theorem parse_eq_ok_iff {text : String} {a : Algorithm} :
    parse text = .ok a ↔ isNamed (Text.trim text.toList) a = true := by
  rw [← parseIn_all, parseIn, ← find?_isNamed_eq_some_iff mem_all]
  rcases all.find? (isNamed (Text.trim text.toList)) with _ | b
  · simp
  · simp

theorem eq_unknown_of_parse_eq_error {text : String} {cause : EvalError}
    (h : parse text = .error cause) : cause = unknown (Text.trim text.toList) := by
  rw [← parseIn_all, parseIn] at h
  split at h
  · cases h
  · exact (Except.error.inj h).symm

/-- A casing of a name is read with any blanks around it. -/
theorem parse_of_recases {before text after : List Char} {a : Algorithm}
    (hbefore : Text.Blanks before) (hafter : Text.Blanks after)
    (h : Recases text a.name.toList) :
    parse (String.ofList (before ++ text ++ after)) = .ok a := by
  have hnamed := isNamed_of_recases h
  have hstrips := Text.strips_of_not_blank hbefore hafter fun c hc =>
    (ascii_of_isNamed hnamed c hc).2
  rw [parse_eq_ok_iff, String.toList_ofList, Text.trim_of_strips hstrips]
  exact hnamed

/-! ## Main statement -/

/-- For every text. It is read as an algorithm exactly if, trimmed and with its ASCII
capitals lowered, it is the name of the algorithm; no other algorithm has that name then, and
the algorithms could be tried in any order that leaves none out. A character beyond ASCII is
not lowered to a letter of any name, and where the trimmed text has one, nothing is read.
Every casing of a name, with whatever blanks around it, is read as the algorithm. What is
not read is refused with a reason that has the trimmed text in quotes, as it is. -/
theorem parse_accepts_every_casing_and_nothing_else (s : String) :
    (∀ a, parse s = .ok a ↔ List.Forall₂ Lowers (Text.trim s.toList) a.name.toList)
    ∧ (∀ a b : Algorithm, List.Forall₂ Lowers (Text.trim s.toList) a.name.toList →
        List.Forall₂ Lowers (Text.trim s.toList) b.name.toList → a = b)
    ∧ (∀ order, (∀ a, a ∈ order) → parseIn order s = parse s)
    ∧ (∀ c d : Char, 128 ≤ c.toNat → ∀ a : Algorithm, d ∈ a.name.toList → ¬ Lowers c d)
    ∧ (∀ c ∈ Text.trim s.toList, 128 ≤ c.toNat → ∀ a, parse s ≠ .ok a)
    ∧ (∀ (a : Algorithm) before text after, Text.Blanks before → Text.Blanks after →
        Recases text a.name.toList → parse (String.ofList (before ++ text ++ after)) = .ok a)
    ∧ ∀ cause, parse s = .error cause →
        cause = .invalidArgument ("unknown algorithm '" ++ String.ofList (Text.trim s.toList)
          ++ "' (expected 'naive' or 'iterative')") := by
  refine ⟨?_, ?_, ?_, ?_, ?_, ?_, ?_⟩
  · intro a
    rw [parse_eq_ok_iff, isNamed_iff]
  · intro a b ha hb
    exact eq_of_isNamed (isNamed_iff.mpr ha) (isNamed_iff.mpr hb)
  · intro order complete
    exact parseIn_eq_parse complete s
  · intro c d hc a hd h
    have hascii := (ascii_of_lowers h hd).1
    omega
  · intro c hc hbeyond a h
    have hascii := (ascii_of_isNamed (parse_eq_ok_iff.mp h) c hc).1
    omega
  · intro a before text after hbefore hafter h
    exact parse_of_recases hbefore hafter h
  · intro cause h
    exact eq_unknown_of_parse_eq_error h

/-- A name in mixed case between blanks of two kinds, also with the algorithms the other way
round; and names whose first letter is a capital with a dot, one without, and a wide one. -/
theorem parse_mixed_case_and_foreign_letters :
    parse " nAIvE\u3000" = .ok naive
    ∧ parseIn [iterative, naive] " nAIvE\u3000" = .ok naive
    ∧ (∀ a, parse "\u0130terative" ≠ .ok a)
    ∧ parse "\t\u0131terative" = .error (.invalidArgument
        "unknown algorithm '\u0131terative' (expected 'naive' or 'iterative')")
    ∧ ∀ a, parse "\uff4eaive" ≠ .ok a := by
  obtain ⟨-, -, horder, -, -, hcased, -⟩ :=
    parse_accepts_every_casing_and_nothing_else " nAIvE\u3000"
  obtain ⟨-, -, -, -, hdotted, -, -⟩ :=
    parse_accepts_every_casing_and_nothing_else "\u0130terative"
  obtain ⟨-, -, -, -, hdotless, -, hrefusal⟩ :=
    parse_accepts_every_casing_and_nothing_else "\t\u0131terative"
  obtain ⟨-, -, -, -, hwide, -, -⟩ :=
    parse_accepts_every_casing_and_nothing_else "\uff4eaive"
  have hmixed : parse " nAIvE\u3000" = .ok naive := by
    have hrecases : Recases "nAIvE".toList naive.name.toList := by
      refine .cons (.inl rfl) (.cons (.inr ?_) (.cons (.inr ?_) (.cons (.inl rfl)
        (.cons (.inr ?_) .nil)))) <;> exact ⟨by decide, by decide, by decide⟩
    exact hcased naive " ".toList "nAIvE".toList "\u3000".toList (by decide +kernel)
      (by decide +kernel) hrecases
  refine ⟨hmixed, ?_, ?_, ?_, ?_⟩
  · rw [horder _ (by intro a; cases a <;> decide)]
    exact hmixed
  · exact hdotted '\u0130' (by decide +kernel) (by decide)
  · rcases hresult : parse "\t\u0131terative" with cause | a
    · rw [hrefusal cause hresult]
      decide +kernel
    · exact absurd hresult (hdotless '\u0131' (by decide +kernel) (by decide) a)
  · exact hwide '\uff4e' (by decide +kernel) (by decide)

end Fibonacci.Algorithm
