/-
A line of a document, read back.

A line that binds a bare name to a value on one line is the least that a document can
say. Here are two kinds of such values as they can be written so that every value of the
kind has a text: a quoted text, with the quote, the backslash and the control characters
escaped, and an integer in decimal. Each is read back up to the line end behind it, and
so the line is read as one pair and nothing else.

A value that starts like a number is first tried as a date or time and as a float. What
rules these out is what follows the digits: a line end, and no dash, colon, point or `e`.
-/
import Fibonacci.Proofs.Numeral
import Fibonacci.Toml.Document

set_option autoImplicit false

namespace Fibonacci.Toml

/-! ## Quoted texts -/

/-- A hexadecimal digit, with its letters in either case. -/
def hexDigit (upper : Bool) (n : ℕ) : Char :=
  if upper then (Text.hexChar n).toUpper else Text.hexChar n

/-- A character as it is written between double quotes. -/
def writeChar (upper : Bool) (c : Char) : List Char :=
  if c = '"' ∨ c = '\\' then ['\\', c]
  else if c.toNat < 0x20 ∨ c.toNat = 0x7F then
    ['\\', 'u', '0', '0', hexDigit upper (c.toNat / 16), hexDigit upper c.toNat]
  else [c]

/-- A text between double quotes, on one line. -/
def writeText (upper : Bool) (text : List Char) : List Char :=
  '"' :: (text.flatMap (writeChar upper) ++ ['"'])

theorem hexValue?_hexDigit (upper : Bool) (n : ℕ) :
    Text.hexValue? (hexDigit upper n) = some (n % 16) := by
  cases upper with
  | false => exact Text.hexValue?_hexChar n
  | true =>
    have hall : ∀ d : Fin 16, Text.hexValue? (hexDigit true d) = some d.val := by decide
    have hdigit : hexDigit true n = hexDigit true (n % 16) := by simp [hexDigit, Text.hexChar]
    rw [hdigit]
    exact hall ⟨n % 16, Nat.mod_lt _ (by decide)⟩

/-- A character is back before the reader looks at what follows it. -/
theorem basicBody_writeChar (upper : Bool) (c : Char) (rest : List Char) :
    basicBody none (writeChar upper c ++ rest) = prepend c (basicBody none rest) := by
  unfold writeChar
  by_cases hspecial : c = '"' ∨ c = '\\'
  · rw [if_pos hspecial]
    rcases hspecial with rfl | rfl
    · rfl
    · rfl
  · rw [if_neg hspecial]
    have hquote : c ≠ '"' := fun h => hspecial (.inl h)
    have hslash : c ≠ '\\' := fun h => hspecial (.inr h)
    by_cases hcontrol : c.toNat < 0x20 ∨ c.toNat = 0x7F
    · have hvalue : (((0 * 16 + 0) * 16 + 0) * 16 + c.toNat / 16 % 16) * 16 + c.toNat % 16
          = c.toNat := by omega
      have hzero : Text.hexValue? '0' = some 0 := by decide
      rw [if_pos hcontrol]
      change basicBody (some (.code 3 0)) ('0' :: '0' :: hexDigit upper (c.toNat / 16)
        :: hexDigit upper c.toNat :: rest) = _
      simp only [basicBody, Escape.step, hzero, hexValue?_hexDigit, hvalue, scalar?_toNat]
      rfl
    · have hplain : isPlain c = true := by
        have hlow : 0x20 ≤ c.toNat := by omega
        have hdelete : c.toNat ≠ 0x7F := by omega
        simp [isPlain, hlow, hdelete]
      rw [if_neg hcontrol]
      change basicBody none (c :: rest) = _
      rw [basicBody]
      simp only [if_neg hquote, if_neg hslash, if_pos hplain]

theorem basicBody_flatMap (upper : Bool) (text rest : List Char) :
    basicBody none (text.flatMap (writeChar upper) ++ '"' :: rest) = some (text, rest) := by
  induction text with
  | nil => rfl
  | cons c text ih =>
    rw [List.flatMap_cons, List.append_assoc, basicBody_writeChar, ih]
    rfl

/-- A written character never starts with the closing quote. -/
theorem head_writeChar (upper : Bool) (c : Char) :
    ∃ first more, writeChar upper c = first :: more ∧ first ≠ '"' := by
  unfold writeChar
  by_cases hspecial : c = '"' ∨ c = '\\'
  · rw [if_pos hspecial]
    exact ⟨'\\', _, rfl, by decide⟩
  · rw [if_neg hspecial]
    by_cases hcontrol : c.toNat < 0x20 ∨ c.toNat = 0x7F
    · rw [if_pos hcontrol]
      exact ⟨'\\', _, rfl, by decide⟩
    · rw [if_neg hcontrol]
      exact ⟨c, _, rfl, fun h => hspecial (.inl h)⟩

/-- A text on one line is never taken for one of several lines: two quotes in a row can
only be those of the empty text, and a line end follows them. -/
theorem quoted?_writeText (upper : Bool) (text rest : List Char) :
    quoted? (writeText upper text ++ '\n' :: rest) = some (text, '\n' :: rest) := by
  have hline : quotedLine? (writeText upper text ++ '\n' :: rest)
      = some (text, '\n' :: rest) := by
    rw [writeText, List.cons_append, List.append_assoc]
    exact basicBody_flatMap upper text ('\n' :: rest)
  have hshape : ∀ more, writeText upper text ++ '\n' :: rest ≠ '"' :: '"' :: '"' :: more := by
    intro more heq
    cases text with
    | nil =>
      injection heq with _ heq
      injection heq with _ heq
      injection heq with hfeed _
      exact absurd hfeed (by decide)
    | cons c text =>
      obtain ⟨first, tail, hwritten, hne⟩ := head_writeChar upper c
      rw [writeText, List.flatMap_cons, hwritten] at heq
      injection heq with _ heq
      injection heq with hfirst _
      exact hne hfirst
  rw [← hline]
  unfold quoted?
  split
  · rename_i heq
    exact absurd heq (hshape _)
  · rename_i heq
    injection heq with hquote _
    exact absurd hquote (by decide)
  · rfl

/-! ## Integers -/

/-- A run of digits ends with its line. -/
theorem moreDigits_append {run : List Char} (hrun : ∀ c ∈ run, Text.isDigit c = true)
    (rest : List Char) :
    Number.moreDigits Text.isDigit (run ++ '\n' :: rest) = (run, '\n' :: rest) := by
  have hstop : Number.moreDigits Text.isDigit ('\n' :: rest) = ([], '\n' :: rest) := by
    cases rest with
    | nil => rfl
    | cons d rest => rfl
  induction run with
  | nil => exact hstop
  | cons c run ih =>
    have hc : Text.isDigit c = true := hrun c List.mem_cons_self
    have hmore := ih fun d hd => hrun d (List.mem_cons_of_mem _ hd)
    obtain ⟨d, more, hnext⟩ : ∃ d more, run ++ '\n' :: rest = d :: more :=
      List.exists_cons_of_ne_nil (by simp)
    rw [List.cons_append, hnext, Number.moreDigits, if_pos hc, ← hnext, hmore]

theorem decimal?_digits (n : ℕ) (rest : List Char) :
    Number.decimal? (Text.digits n ++ '\n' :: rest)
      = some (Text.digits n, '\n' :: rest) := by
  have hdigit : ∀ c ∈ Text.digits n, Text.isDigit c = true :=
    fun c hc => Text.isDigit_of_mem_digits hc
  obtain ⟨first, more, hdigits⟩ := List.exists_cons_of_ne_nil (Text.digits_ne_nil n)
  by_cases hzero : first = '0'
  · have hn : n = 0 := by
      apply Text.eq_zero_of_head?_digits
      rw [hdigits, hzero]
      rfl
    rw [hn, Text.digits_zero]
    rfl
  · have hrun : ∀ c ∈ more, Text.isDigit c = true := by
      intro c hc
      exact hdigit c (by rw [hdigits]; exact List.mem_cons_of_mem _ hc)
    have hfirst : Text.isDigit first = true :=
      hdigit first (by rw [hdigits]; exact List.mem_cons_self)
    rw [hdigits, List.cons_append]
    unfold Number.decimal?
    split
    · rename_i heq
      exact absurd (List.cons.inj heq).1 hzero
    · rw [Number.digits?, if_pos hfirst, moreDigits_append hrun]

theorem sign_signedDigits (i : ℤ) (rest : List Char) :
    Number.sign (Text.signedDigits i ++ '\n' :: rest)
      = (decide (i < 0), Text.digits i.natAbs ++ '\n' :: rest) := by
  unfold Text.signedDigits
  by_cases hi : i < 0
  · rw [if_pos hi, decide_eq_true hi]
    rfl
  · obtain ⟨first, more, hdigits, hfirst⟩ := Text.head_digits i.natAbs
    rw [if_neg hi, decide_eq_false hi, hdigits, List.cons_append]
    unfold Number.sign
    split
    · rename_i heq
      exact absurd (List.cons.inj heq).1 (Text.ne_of_class hfirst (by decide))
    · rename_i heq
      exact absurd (List.cons.inj heq).1 (Text.ne_of_class hfirst (by decide))
    · rfl

/-- Digits before a line end are no float: there is no point and no exponent. -/
theorem float?_signedDigits (i : ℤ) (rest : List Char) :
    Number.float? (Text.signedDigits i ++ '\n' :: rest) = none := by
  have hdecimal : Number.decimalFloat? (Text.signedDigits i ++ '\n' :: rest) = none := by
    unfold Number.decimalFloat?
    simp only [sign_signedDigits, decimal?_digits]
    rfl
  have hnamed : Number.namedFloat? (Text.signedDigits i ++ '\n' :: rest) = none := by
    obtain ⟨first, more, hdigits, hfirst⟩ := Text.head_digits i.natAbs
    unfold Number.namedFloat?
    rw [sign_signedDigits, hdigits]
    dsimp only
    rw [List.cons_append]
    split
    · rename_i heq
      exact absurd (List.cons.inj heq).1 (Text.ne_of_class hfirst (by decide))
    · rename_i heq
      exact absurd (List.cons.inj heq).1 (Text.ne_of_class hfirst (by decide))
    · rfl
  rw [Number.float?, hdecimal, hnamed]
  rfl

/-! ### No date and no time -/

/-- A number of a fixed width is not found, or leaves the digits behind it. -/
theorem momentNumber?_append (run : List Char) (width : ℕ) (rest : List Char) :
    Moment.number? width (run ++ '\n' :: rest) = none
    ∨ ∃ value, Moment.number? width (run ++ '\n' :: rest)
        = some (value, run.drop width ++ '\n' :: rest) := by
  unfold Moment.number?
  dsimp only
  by_cases hwidth : width ≤ run.length
  · by_cases hfound : (((run ++ '\n' :: rest).take width).length = width
        && ((run ++ '\n' :: rest).take width).all Text.isDigit) = true
    · rw [if_pos hfound, List.drop_append_of_le_length hwidth]
      exact .inr ⟨_, rfl⟩
    · rw [if_neg hfound]
      exact .inl rfl
  · -- the line end is among the characters taken
    have hmem : '\n' ∈ (run ++ '\n' :: rest).take width := by
      rw [List.take_append]
      obtain ⟨k, hk⟩ : ∃ k, width - run.length = k + 1 := ⟨width - run.length - 1, by omega⟩
      rw [hk, List.take_succ_cons]
      exact List.mem_append_right _ List.mem_cons_self
    have hall : ((run ++ '\n' :: rest).take width).all Text.isDigit = false := by
      rw [List.all_eq_false]
      exact ⟨'\n', hmem, by decide⟩
    rw [hall, Bool.and_false, if_neg (by decide)]
    exact .inl rfl

/-- Between digits and their line end there is no mark. -/
theorem mark?_append {run : List Char} (hrun : ∀ c ∈ run, Text.isDigit c = true) {mark : Char}
    (hdigit : Text.isDigit mark = false) (hfeed : '\n' ≠ mark) (rest : List Char) :
    Moment.mark? mark (run ++ '\n' :: rest) = none := by
  cases run with
  | nil => exact if_neg hfeed
  | cons c run =>
    exact if_neg (Text.ne_of_class (hrun c List.mem_cons_self) hdigit)

theorem skip?_append {run : List Char} (hrun : ∀ c ∈ run, Text.isDigit c = true)
    (rest : List Char) : Moment.skip? (run ++ '\n' :: rest) = none := by
  have hdrop : ∀ width, ∀ c ∈ run.drop width, Text.isDigit c = true :=
    fun width c hc => hrun c (List.mem_of_mem_drop hc)
  have hdate : Moment.date? (run ++ '\n' :: rest) = none := by
    unfold Moment.date?
    rcases momentNumber?_append run 4 rest with hnone | ⟨year, hyear⟩
    · rw [hnone]
      rfl
    · rw [hyear]
      dsimp only [Option.bind_eq_bind, Option.bind_some]
      rw [mark?_append (hdrop 4) (by decide) (by decide)]
      rfl
  have htime : Moment.time? (run ++ '\n' :: rest) = none := by
    unfold Moment.time? Moment.pair?
    rcases momentNumber?_append run 2 rest with hnone | ⟨hour, hhour⟩
    · rw [hnone]
      rfl
    · rw [hhour]
      dsimp only
      by_cases hrange : (decide (0 ≤ hour) && decide (hour ≤ 23)) = true
      · rw [if_pos hrange]
        dsimp only [Option.bind_eq_bind, Option.bind_some]
        rw [mark?_append (hdrop 2) (by decide) (by decide)]
        rfl
      · rw [if_neg hrange]
        rfl
  rw [Moment.skip?, hdate]
  exact htime

theorem momentNumber?_minus (width : ℕ) (rest : List Char) :
    Moment.number? (width + 1) ('-' :: rest) = none := by
  have hall : (('-' :: rest).take (width + 1)).all Text.isDigit = false := by
    rw [List.take_succ_cons, List.all_cons]
    rfl
  unfold Moment.number?
  dsimp only
  rw [hall, Bool.and_false, if_neg (by decide)]

/-- Neither digits nor a minus and digits start a date or a time. -/
theorem skip?_signedDigits (i : ℤ) (rest : List Char) :
    Moment.skip? (Text.signedDigits i ++ '\n' :: rest) = none := by
  unfold Text.signedDigits
  by_cases hi : i < 0
  · rw [if_pos hi, List.cons_append, Moment.skip?, Moment.date?, Moment.time?, Moment.pair?,
      momentNumber?_minus, momentNumber?_minus]
    rfl
  · rw [if_neg hi]
    exact skip?_append (fun c hc => Text.isDigit_of_mem_digits hc) rest

/-! ### The integer itself -/

/-- A leading zero is a lone zero, so no mark of another base can follow it. -/
theorem signedDigits_append_ne (i : ℤ) {mark : Char} (hmark : mark ≠ '\n')
    (rest more : List Char) : Text.signedDigits i ++ '\n' :: rest ≠ '0' :: mark :: more := by
  unfold Text.signedDigits
  by_cases hi : i < 0
  · rw [if_pos hi]
    intro heq
    exact absurd (List.cons.inj heq).1 (by decide)
  · obtain ⟨first, tail, hdigits, -⟩ := Text.head_digits i.natAbs
    rw [if_neg hi]
    intro heq
    have hhead : (Text.digits i.natAbs).head? = some '0' := by
      rw [hdigits] at heq ⊢
      exact congrArg some (List.cons.inj heq).1
    rw [Text.eq_zero_of_head?_digits hhead, Text.digits_zero] at heq
    exact hmark (List.cons.inj (List.cons.inj heq).2).1.symm

theorem integer?_signedDigits {i : ℤ} (hrange : Number.inRange? i = some i)
    (rest : List Char) :
    Number.integer? (Text.signedDigits i ++ '\n' :: rest) = some (i, '\n' :: rest) := by
  have hsigned : Number.signed (decide (i < 0)) i.natAbs = i := by
    unfold Number.signed
    by_cases hi : i < 0
    · rw [decide_eq_true hi, if_pos rfl]
      omega
    · rw [decide_eq_false hi, if_neg (by decide)]
      omega
  unfold Number.integer?
  split
  · rename_i heq
    exact absurd heq (signedDigits_append_ne i (by decide) _ _)
  · rename_i heq
    exact absurd heq (signedDigits_append_ne i (by decide) _ _)
  · rename_i heq
    exact absurd heq (signedDigits_append_ne i (by decide) _ _)
  · rw [sign_signedDigits]
    dsimp only
    rw [decimal?_digits]
    dsimp only [Option.bind_eq_bind, Option.bind_some]
    rw [Text.valueOf_digits, hsigned, hrange]
    rfl

/-! ## Values -/

/-- A value that opens neither an array nor a table holds no other values. -/
theorem value?_eq_scalar {c : Char} (hbracket : c ≠ '[') (hbrace : c ≠ '\x7b') (depth : ℕ)
    (rest : List Char) : value? depth (c :: rest) = scalar (c :: rest) := by
  cases depth with
  | zero => rfl
  | succ depth =>
    unfold value?
    split
    · rename_i heq
      exact absurd (List.cons.inj heq).1 hbracket
    · rename_i heq
      exact absurd (List.cons.inj heq).1 hbrace
    · rfl

/-- What a value on one line has to be: it does not start with a blank, and up to its
line end it is read as the node. -/
structure Reads (written : List Char) (node : Node) : Prop where
  skipGap : ∀ rest, skipGap (written ++ rest) = written ++ rest
  value? : ∀ rest, value? maxDepth (written ++ '\n' :: rest) = some (node, '\n' :: rest)

theorem reads_writeText (upper : Bool) (text : String) :
    Reads (writeText upper text.toList) (.string text) where
  skipGap rest := rfl
  value? rest := by
    have hquoted := quoted?_writeText upper text.toList rest
    rw [writeText, List.cons_append] at hquoted ⊢
    rw [value?_eq_scalar (by decide) (by decide), scalar, if_pos (by decide), hquoted,
      Option.map_some]
    dsimp only
    rw [String.ofList_toList]

theorem reads_signedDigits {i : ℤ} (hrange : Number.inRange? i = some i) :
    Reads (Text.signedDigits i) (.integer i) := by
  have hnumeric : ∀ rest, numeric? (Text.signedDigits i ++ '\n' :: rest)
      = some (.integer i, '\n' :: rest) := by
    intro rest
    rw [numeric?, skip?_signedDigits, float?_signedDigits, integer?_signedDigits hrange]
    rfl
  obtain ⟨first, more, hwritten, hfirst⟩ := Text.head_signedDigits i
  have hne : ∀ {c : Char}, c ≠ '-' → Text.isDigit c = false → first ≠ c :=
    Text.ne_of_startsNumber hfirst
  refine ⟨fun rest => ?_, fun rest => ?_⟩
  · have hgap : isGap first = false := by
      simp [isGap, hne (c := ' ') (by decide) (by decide), hne (c := '\t') (by decide) (by decide)]
    rw [hwritten, List.cons_append, skipGap, List.dropWhile_cons_of_neg (by simp [hgap])]
  · have hnumber : (first = '+' || first = '-' || Text.isDigit first) = true := by
      rcases hfirst with rfl | hfirst
      · rfl
      · simp [hfirst]
    have hnumeric := hnumeric rest
    rw [hwritten, List.cons_append] at hnumeric ⊢
    rw [value?_eq_scalar (hne (by decide) (by decide)) (hne (by decide) (by decide)), scalar,
      if_neg (by simp [hne (c := '"') (by decide) (by decide),
        hne (c := '\'') (by decide) (by decide)]), if_pos hnumber, hnumeric]

/-! ## Lines -/

theorem skipGap_of_isBare {c : Char} (hc : isBare c = true) (rest : List Char) :
    skipGap (c :: rest) = c :: rest := by
  have hspace : c ≠ ' ' := Text.ne_of_class hc (by decide)
  have htab : c ≠ '\t' := Text.ne_of_class hc (by decide)
  have hgap : isGap c = false := by simp [isGap, hspace, htab]
  rw [skipGap, List.dropWhile_cons_of_neg (by simp [hgap])]

theorem lineOf_of_isBare {c : Char} (hc : isBare c = true) (rest : List Char) :
    Line.of (c :: rest) = .pair := by
  unfold Line.of
  split
  · rename_i heq
    cases heq
  · rename_i heq
    exact absurd (List.cons.inj heq).1 (Text.ne_of_class hc (by decide))
  · rename_i heq
    exact absurd (List.cons.inj heq).1 (Text.ne_of_class hc (by decide))
  · rename_i heq
    exact absurd (List.cons.inj heq).1 (Text.ne_of_class hc (by decide))
  · rename_i heq
    exact absurd (List.cons.inj heq).1 (Text.ne_of_class hc (by decide))
  · rfl

section
variable {c : Char} {name : List Char} (hbare : ∀ d ∈ c :: name, isBare d = true)
include hbare

/-- A bare name ends where a blank follows it. -/
theorem name?_append (rest : List Char) :
    name? (c :: name ++ ' ' :: rest) = some (c :: name, ' ' :: rest) := by
  have hc : isBare c = true := hbare c List.mem_cons_self
  have htake : (c :: name ++ ' ' :: rest).takeWhile isBare = c :: name := by
    rw [List.takeWhile_append_of_pos hbare, List.takeWhile_cons_of_neg (by decide),
      List.append_nil]
  have hdrop : (c :: name ++ ' ' :: rest).dropWhile isBare = ' ' :: rest := by
    rw [List.dropWhile_append_of_pos hbare, List.dropWhile_cons_of_neg (by decide)]
  have hname : bareName? (c :: name ++ ' ' :: rest) = some (c :: name, ' ' :: rest) := by
    rw [bareName?, htake, hdrop]
    rfl
  rw [← hname]
  unfold name?
  split
  · rename_i heq
    exact absurd (List.cons.inj heq).1 (Text.ne_of_class hc (by decide))
  · rename_i heq
    exact absurd (List.cons.inj heq).1 (Text.ne_of_class hc (by decide))
  · rfl

/-- A bare name and the sign behind it are a whole key. -/
theorem binding?_append (rest : List Char) :
    ∃ span, binding? (c :: name ++ ' ' :: '=' :: rest)
      = some ([⟨String.ofList (c :: name), span⟩], skipGap rest) := by
  have hskip : skipGap (c :: name ++ ' ' :: '=' :: rest) = c :: name ++ ' ' :: '=' :: rest :=
    skipGap_of_isBare (hbare c List.mem_cons_self) _
  have hround : ∃ span, keyRound (c :: name ++ ' ' :: '=' :: rest)
      = some (.last ⟨String.ofList (c :: name), span⟩ ('=' :: rest)) := by
    unfold keyRound
    rw [hskip]
    dsimp only
    rw [name?_append hbare]
    exact ⟨_, rfl⟩
  obtain ⟨span, hround⟩ := hround
  refine ⟨span, ?_⟩
  rw [binding?, key?, collect_of_last hround]
  rfl

/-- A bare name, the sign and a value make one pair, and nothing of the next line is
read. -/
theorem lineRound_binding {written : List Char} {node : Node} (hreads : Reads written node)
    (rest : List Char) :
    ∃ keySpan span, lineRound (c :: name ++ ' ' :: '=' :: ' ' :: (written ++ '\n' :: rest))
        = some (.more (some ⟨[⟨String.ofList (c :: name), keySpan⟩], node, span⟩) rest) := by
  have hc : isBare c = true := hbare c List.mem_cons_self
  obtain ⟨keySpan, hkey⟩ := binding?_append hbare (' ' :: (written ++ '\n' :: rest))
  have hgap : skipGap (' ' :: (written ++ '\n' :: rest)) = written ++ '\n' :: rest := by
    rw [skipGap, List.dropWhile_cons_of_pos (by decide)]
    exact hreads.skipGap ('\n' :: rest)
  have hpair : ∃ span, pair? (value? maxDepth)
        (c :: name ++ ' ' :: '=' :: ' ' :: (written ++ '\n' :: rest))
      = some (⟨[⟨String.ofList (c :: name), keySpan⟩], node, span⟩, '\n' :: rest) := by
    rw [pair?, hkey, hgap]
    dsimp only [Option.bind_eq_bind, Option.bind_some]
    rw [hreads.value?]
    exact ⟨_, rfl⟩
  obtain ⟨span, hpair⟩ := hpair
  refine ⟨keySpan, span, ?_⟩
  rw [lineRound, List.cons_append, skipGap_of_isBare hc]
  dsimp only
  rw [lineOf_of_isBare hc, ← List.cons_append, pairLine?, hpair]
  rfl

end

end Fibonacci.Toml
