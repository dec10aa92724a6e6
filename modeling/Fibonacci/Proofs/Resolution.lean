/-
Settings against a reference.

The reference takes the settings one by one. Each has a source, the first of command line,
file and default that says anything; what it says there is judged alone, by the rule of
its kind; and a refusal of something in the file has the key named in front, except for
the report. All three are judged, whatever comes of the others, and then the first
refusal in the order index, algorithm, report decides.

Resolving stops at the first refusal instead, and never looks at the rest. That this makes
no difference is `resolve_eq_reference`. The key in front of a message is never part of
the message itself: refusals of all three kinds start with another letter, so a message
that starts with a key tells where the setting came from.
-/
import Fibonacci.Proofs.Sources
import Fibonacci.Proofs.Trimming

set_option autoImplicit false

namespace Fibonacci.Settings

/-! ## The reference -/

/-- Where a setting is taken from, with what is said there. -/
inductive Source (α β : Type) where
  /-- The command line. -/
  | option (value : α)
  /-- The configuration. -/
  | file (value : β)
  /-- Neither of them. -/
  | default

/-- The first source that says anything. -/
def Source.first {α β : Type} (option : Option α) (file : Option β) : Source α β :=
  (option.map .option).getD ((file.map .file).getD .default)

/-- How a setting of one kind is judged. A refusal is the message for the user. -/
structure Rule (α β γ : Type) where
  onOption : α → Except String γ
  onFile : β → Except String γ
  /-- What stands in front of the refusal of something in the file. -/
  label : String
  default : γ

/-- What a source comes to. -/
def Rule.verdict {α β γ : Type} (rule : Rule α β γ) : Source α β → Except String γ
  | .option value => rule.onOption value
  | .file value => (rule.onFile value).mapError (rule.label ++ ·)
  | .default => .ok rule.default

def indexRule : Rule String Int64 UInt32 where
  onOption text := (Index.parse text).mapError EvalError.message
  onFile value := (Index.ofInt value.toInt).mapError EvalError.message
  label := "config key 'n': "
  default := 40

def algorithmRule : Rule Algorithm String Algorithm where
  onOption := .ok
  onFile name := (Algorithm.parse name).mapError EvalError.message
  label := "config key 'algorithm': "
  default := .naive

def reportRule : Rule String String (Option Report.Spec) where
  onOption text := (Report.Spec.parse text).mapError Report.Spec.Fault.message
  onFile text := (Report.Spec.parse text).mapError Report.Spec.Fault.message
  label := ""
  default := none

section
variable (overrides : Overrides) (config : Config)

def indexVerdict : Except String UInt32 := indexRule.verdict (.first overrides.n config.n)

def algorithmVerdict : Except String Algorithm :=
  algorithmRule.verdict (.first overrides.algorithm config.algorithm)

def reportVerdict : Except String (Option Report.Spec) :=
  reportRule.verdict (.first overrides.report config.report)

/-- The settings if all three are good, and otherwise the first refusal. -/
def reference : Except String Settings :=
  match indexVerdict overrides config, algorithmVerdict overrides config,
    reportVerdict overrides config with
  | .ok n, .ok algorithm, .ok report => .ok ⟨n, algorithm, report⟩
  | .error message, _, _ => .error message
  | .ok _, .error message, _ => .error message
  | .ok _, .ok _, .error message => .error message

end

/-! ## One setting -/

section
variable {α ε ε' ε'' : Type}

theorem mapError_mapError (x : Except ε α) (f : ε → ε') (g : ε' → ε'') :
    (x.mapError f).mapError g = x.mapError fun cause => g (f cause) := by
  rcases x with cause | value
  · rfl
  · rfl

theorem mapError_eq_ok_iff {x : Except ε α} {f : ε → ε'} {value : α} :
    x.mapError f = .ok value ↔ x = .ok value := by
  rcases x with cause | value' <;> simp [Except.mapError]

end

section
variable (overrides : Overrides) (config : Config)

theorem mapError_resolveIndex :
    (resolveIndex overrides.n config.n).mapError Error.message
      = indexVerdict overrides config := by
  unfold resolveIndex indexVerdict
  rcases overrides.n with _ | text
  · rcases config.n with _ | value
    · rfl
    · change ((indexOfFile value).mapError Error.fileIndex).mapError Error.message
        = ((Index.ofInt value.toInt).mapError EvalError.message).mapError
            ("config key 'n': " ++ ·)
      rw [mapError_mapError, mapError_mapError]
      rfl
  · exact mapError_mapError _ _ _

theorem mapError_resolveAlgorithm :
    (resolveAlgorithm overrides.algorithm config.algorithm).mapError Error.message
      = algorithmVerdict overrides config := by
  unfold resolveAlgorithm algorithmVerdict
  rcases overrides.algorithm with _ | algorithm
  · rcases config.algorithm with _ | name
    · rfl
    · change ((Algorithm.parse name).mapError Error.fileAlgorithm).mapError Error.message
        = ((Algorithm.parse name).mapError EvalError.message).mapError
            ("config key 'algorithm': " ++ ·)
      rw [mapError_mapError, mapError_mapError]
      rfl
  · rfl

theorem mapError_resolveReport :
    (resolveReport overrides.report config.report).mapError Error.message
      = reportVerdict overrides config := by
  unfold resolveReport reportVerdict
  rcases overrides.report with _ | text
  · rcases config.report with _ | text
    · rfl
    · change ((Report.Spec.parse text).mapError Error.report).mapError Error.message
        = ((Report.Spec.parse text).mapError Report.Spec.Fault.message).mapError ("" ++ ·)
      rw [mapError_mapError, mapError_mapError]
      simp only [String.empty_append]
      rfl
  · exact mapError_mapError _ _ _

/-- Stopping at the first refusal comes to the same as judging all and taking the first. -/
theorem resolve_eq_reference :
    (resolve overrides config).mapError Error.message = reference overrides config := by
  unfold resolve reference
  rw [← mapError_resolveIndex, ← mapError_resolveAlgorithm, ← mapError_resolveReport]
  rcases resolveIndex overrides.n config.n with cause | n
  · rfl
  rcases resolveAlgorithm overrides.algorithm config.algorithm with cause | algorithm
  · rfl
  rcases resolveReport overrides.report config.report with cause | report
  · rfl
  · rfl

end

/-! ## Which setting is refused -/

section
variable {overrides : Overrides} {config : Config} {cause : Error}

theorem resolveIndex_eq_error (h : resolveIndex overrides.n config.n = .error cause) :
    (∃ text fault, overrides.n = some text ∧ cause = .index fault)
    ∨ ∃ fault, overrides.n = none ∧ cause = .fileIndex fault := by
  unfold resolveIndex at h
  split at h
  · rename_i hsource
    obtain ⟨fault, rfl⟩ := exists_eq_of_mapError h
    exact .inl ⟨_, fault, hsource, rfl⟩
  · rename_i hsource _
    obtain ⟨fault, rfl⟩ := exists_eq_of_mapError h
    exact .inr ⟨fault, hsource, rfl⟩
  · cases h

theorem resolveAlgorithm_eq_error
    (h : resolveAlgorithm overrides.algorithm config.algorithm = .error cause) :
    overrides.algorithm = none ∧ ∃ fault, cause = .fileAlgorithm fault := by
  refine ⟨?_, eq_fileAlgorithm_of_resolveAlgorithm h⟩
  unfold resolveAlgorithm at h
  split at h
  · cases h
  · assumption
  · cases h

/-- A refusal is that of one setting, and those before it are good. -/
theorem resolve_eq_error_cases (h : resolve overrides config = .error cause) :
    (∃ text fault message, overrides.n = some text ∧ cause = .index fault
      ∧ indexVerdict overrides config = .error message)
    ∨ (∃ fault message, overrides.n = none ∧ cause = .fileIndex fault
      ∧ indexVerdict overrides config = .error message)
    ∨ (∃ n fault message, overrides.algorithm = none ∧ cause = .fileAlgorithm fault
      ∧ indexVerdict overrides config = .ok n
      ∧ algorithmVerdict overrides config = .error message)
    ∨ ∃ n algorithm fault, cause = .report fault ∧ indexVerdict overrides config = .ok n
      ∧ algorithmVerdict overrides config = .ok algorithm := by
  have hindex := mapError_resolveIndex overrides config
  have halgorithm := mapError_resolveAlgorithm overrides config
  rcases hn : resolveIndex overrides.n config.n with bad | n
  · rw [resolve_of_index_error hn] at h
    obtain rfl := Except.error.inj h
    rw [hn] at hindex
    rcases resolveIndex_eq_error hn with ⟨text, fault, hsource, hcause⟩ | ⟨fault, hsource, hcause⟩
    · exact .inl ⟨text, fault, _, hsource, hcause, hindex.symm⟩
    · exact .inr (.inl ⟨fault, _, hsource, hcause, hindex.symm⟩)
  rw [resolve_of_index_ok hn, resolveAt] at h
  rw [hn] at hindex
  rcases ha : resolveAlgorithm overrides.algorithm config.algorithm with bad | algorithm
  · rw [ha] at h halgorithm
    obtain rfl : bad = cause := Except.error.inj h
    obtain ⟨hsource, fault, hcause⟩ := resolveAlgorithm_eq_error ha
    exact .inr (.inr (.inl ⟨n, fault, _, hsource, hcause, hindex.symm, halgorithm.symm⟩))
  rcases hr : resolveReport overrides.report config.report with bad | report
  · rw [ha, hr] at h
    rw [ha] at halgorithm
    obtain rfl : bad = cause := Except.error.inj h
    obtain ⟨fault, hcause⟩ := eq_report_of_resolveReport hr
    exact .inr (.inr (.inr ⟨n, algorithm, fault, hcause, hindex.symm, halgorithm.symm⟩))
  · rw [ha, hr] at h
    cases h

end

/-! ## The key in front of a message -/

/-- The message starts with the label. -/
def Labelled (label message : String) : Prop := label.toList <+: message.toList

theorem labelled_append (label message : String) : Labelled label (label ++ message) := by
  rw [Labelled, String.toList_append]
  exact List.prefix_append _ _

/-- A label that starts with another letter than the message is not in front of it. -/
theorem not_labelled_of_head? {label message : String} {c d : Char}
    (hlabel : label.toList.head? = some c) (hmessage : message.toList.head? = some d)
    (hne : c ≠ d) : ¬ Labelled label message := by
  rintro ⟨rest, hrest⟩
  rw [← hrest, List.head?_append, hlabel] at hmessage
  exact hne (Option.some.inj hmessage)

/-- Two labels that differ before either ends are not in front of the same message. -/
theorem not_labelled_append {label other : String} (message : String)
    (h : ¬ label.toList <+: other.toList) (h' : ¬ other.toList <+: label.toList) :
    ¬ Labelled label (other ++ message) := by
  rw [Labelled, String.toList_append]
  intro hlabel
  have hother : other.toList <+: other.toList ++ message.toList := List.prefix_append _ _
  rcases le_total label.toList.length other.toList.length with hle | hle
  · exact h (List.prefix_of_prefix_length_le hlabel hother hle)
  · exact h' (List.prefix_of_prefix_length_le hother hlabel hle)

theorem head?_append (first rest : String) {c : Char} (h : first.toList.head? = some c) :
    (first ++ rest).toList.head? = some c := by
  rw [String.toList_append, List.head?_append, h]
  rfl

-- the messages are opened by their shape: the equations of `message` would run the texts
theorem head?_evalError_message (cause : EvalError) :
    cause.message.toList.head? = some 'i' ∨ cause.message.toList.head? = some 'f' := by
  rcases cause with reason | index
  · exact .inl (head?_append "invalid argument: " reason (by decide))
  · refine .inr ?_
    change ("fib(" ++ Text.numeral index.toNat ++ ") overflows a 64-bit unsigned integer "
      ++ "(largest supported n is " ++ Text.numeral maxIndex.toNat ++ ")").toList.head? = some 'f'
    simp only [String.append_assoc]
    exact head?_append _ _ (by decide)

theorem head?_specFault_message (fault : Report.Spec.Fault) :
    fault.message.toList.head? = some 'R' ∨ fault.message.toList.head? = some 'U' := by
  rcases fault with _ | text
  · exact .inl (by decide)
  · refine .inr ?_
    change ("Unknown report spec '" ++ String.ofList text
      ++ "' (expected human, json, or json:/path)").toList.head? = some 'U'
    rw [String.append_assoc]
    exact head?_append _ _ (by decide)

theorem not_labelled_evalError {label : String} (h : label.toList.head? = some 'c')
    (cause : EvalError) : ¬ Labelled label cause.message := by
  rcases head?_evalError_message cause with hhead | hhead
  · exact not_labelled_of_head? h hhead (by decide)
  · exact not_labelled_of_head? h hhead (by decide)

theorem not_labelled_specFault {label : String} (h : label.toList.head? = some 'c')
    (fault : Report.Spec.Fault) : ¬ Labelled label fault.message := by
  rcases head?_specFault_message fault with hhead | hhead
  · exact not_labelled_of_head? h hhead (by decide)
  · exact not_labelled_of_head? h hhead (by decide)

section
variable {overrides : Overrides} {config : Config} {cause : Error}

/-- The key of the index is in front exactly if the index in the file is refused. -/
theorem labelled_index_iff (h : resolve overrides config = .error cause) :
    Labelled "config key 'n': " cause.message
      ↔ overrides.n = none ∧ ∃ message, indexVerdict overrides config = .error message := by
  rcases resolve_eq_error_cases h with ⟨text, fault, message, hsource, rfl, hindex⟩
    | ⟨fault, message, hsource, rfl, hindex⟩ | ⟨n, fault, message, -, rfl, hindex, -⟩
    | ⟨n, algorithm, fault, rfl, hindex, -⟩
  · refine iff_of_false (not_labelled_evalError (by decide) fault) ?_
    rintro ⟨hnone, -⟩
    rw [hsource] at hnone
    cases hnone
  · exact iff_of_true (labelled_append _ _) ⟨hsource, message, hindex⟩
  · refine iff_of_false (not_labelled_append _ (by decide) (by decide)) ?_
    rintro ⟨-, message, hbad⟩
    rw [hindex] at hbad
    cases hbad
  · refine iff_of_false (not_labelled_specFault (by decide) fault) ?_
    rintro ⟨-, message, hbad⟩
    rw [hindex] at hbad
    cases hbad

/-- The key of the algorithm is in front exactly if the algorithm in the file is refused
and the index is good. -/
theorem labelled_algorithm_iff (h : resolve overrides config = .error cause) :
    Labelled "config key 'algorithm': " cause.message
      ↔ overrides.algorithm = none ∧ (∃ n, indexVerdict overrides config = .ok n)
        ∧ ∃ message, algorithmVerdict overrides config = .error message := by
  rcases resolve_eq_error_cases h with ⟨text, fault, message, hsource, rfl, hindex⟩
    | ⟨fault, message, hsource, rfl, hindex⟩ | ⟨n, fault, message, hsource, rfl, hindex, hbad⟩
    | ⟨n, algorithm, fault, rfl, -, hgood⟩
  · refine iff_of_false (not_labelled_evalError (by decide) fault) ?_
    rintro ⟨-, ⟨n, hgood⟩, -⟩
    rw [hindex] at hgood
    cases hgood
  · refine iff_of_false (not_labelled_append _ (by decide) (by decide)) ?_
    rintro ⟨-, ⟨n, hgood⟩, -⟩
    rw [hindex] at hgood
    cases hgood
  · exact iff_of_true (labelled_append _ _) ⟨hsource, ⟨n, hindex⟩, message, hbad⟩
  · refine iff_of_false (not_labelled_specFault (by decide) fault) ?_
    rintro ⟨-, -, message, hbad⟩
    rw [hgood] at hbad
    cases hbad

end

/-! ## A report that is switched off -/

/-- The text is blank, or a zero with blanks around it. -/
def SwitchesOff (text : String) : Prop :=
  Text.Strips text.toList [] ∨ Text.Strips text.toList ['0']

theorem parse_of_switchesOff {text : String} (h : SwitchesOff text) :
    Report.Spec.parse text = .ok none := by
  rw [Report.Spec.parse]
  rcases h with h | h
  · rw [Text.trim_of_strips h]
    rfl
  · rw [Text.trim_of_strips h]
    rfl

theorem reportVerdict_of_switchesOff {overrides : Overrides} {text : String}
    (given : overrides.report = some text) (off : SwitchesOff text) (config : Config) :
    reportVerdict overrides config = .ok none := by
  rw [← mapError_resolveReport, given, resolveReport]
  change ((Report.Spec.parse text).mapError Error.report).mapError Error.message = .ok none
  rw [parse_of_switchesOff off]
  rfl

/-! ## Main statement -/

/-- For everything that the command line and the configuration can say. Resolving comes to
what the reference gives, message by message. A message starts with the key of the index
exactly if the index came from the file and is refused, and with the key of the algorithm
exactly if the algorithm came from the file and is the first to be refused. A command line
that switches the report off has none, whatever the file asks for. -/
theorem resolve_meets_reference (overrides : Overrides) (config : Config) :
    (resolve overrides config).mapError Error.message = reference overrides config
    ∧ (∀ cause, resolve overrides config = .error cause →
        (Labelled "config key 'n': " cause.message
          ↔ overrides.n = none ∧ ∃ message, indexVerdict overrides config = .error message)
        ∧ (Labelled "config key 'algorithm': " cause.message
          ↔ overrides.algorithm = none ∧ (∃ n, indexVerdict overrides config = .ok n)
            ∧ ∃ message, algorithmVerdict overrides config = .error message))
    ∧ (∀ text, overrides.report = some text → SwitchesOff text →
        ∀ n algorithm, indexVerdict overrides config = .ok n →
          algorithmVerdict overrides config = .ok algorithm →
          resolve overrides config = .ok ⟨n, algorithm, none⟩) := by
  refine ⟨resolve_eq_reference overrides config, ?_, ?_⟩
  · intro cause h
    exact ⟨labelled_index_iff h, labelled_algorithm_iff h⟩
  · intro text given off n algorithm hindex halgorithm
    have hreference : reference overrides config = .ok ⟨n, algorithm, none⟩ := by
      rw [reference, hindex, halgorithm, reportVerdict_of_switchesOff given off]
    rw [← resolve_eq_reference] at hreference
    exact mapError_eq_ok_iff.mp hreference

/-- An index and an algorithm of the file that are both refused: the index decides and has
its key in front. And a zero among blanks, which hides the report of the file. -/
theorem resolve_bad_file_and_hidden_report :
    (∃ cause, resolve {} { n := some (-3), algorithm := some "memo" } = .error cause
      ∧ Labelled "config key 'n': " cause.message)
    ∧ resolve { algorithm := some .iterative, report := some " 0\t" }
        { n := some 7, algorithm := some "memo", report := some "json:r" }
      = .ok ⟨7, .iterative, none⟩ := by
  obtain ⟨-, hcause, -⟩ := resolve_meets_reference {} { n := some (-3), algorithm := some "memo" }
  obtain ⟨-, -, hoff⟩ := resolve_meets_reference
    { algorithm := some .iterative, report := some " 0\t" }
    { n := some 7, algorithm := some "memo", report := some "json:r" }
  have hnegative : resolve {} { n := some (-3), algorithm := some "memo" }
      = .error (.fileIndex (.invalidArgument "-3 is negative")) := by
    decide +kernel
  refine ⟨⟨_, hnegative, ?_⟩, ?_⟩
  · exact (hcause _ hnegative).1.mpr ⟨rfl, "config key 'n': invalid argument: -3 is negative", by
      decide +kernel⟩
  · exact hoff _ rfl (.inr (Text.strips_iff.mpr (by decide +kernel))) 7 .iterative
      (by decide +kernel) rfl

end Fibonacci.Settings
