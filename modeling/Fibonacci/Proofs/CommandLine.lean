/-
Order and spelling of the arguments.

The arguments of an evaluation are up to four items: the index and three options. Each
option has its value in the argument of its name or in the next one, and the algorithm
also has a letter. Whatever the order of the items and however each is written, the
reading comes to the same record.

What makes the order immaterial is that after each item the state, once settled, says
no more than which items have been given: the record, and whether the index is among
them (`Reached`). One item, in any spelling, takes such a state to such a state; a whole
command line follows by induction, and the records agree because the items fill places
of their own.
-/
import Fibonacci.Proofs.AlgorithmNames
import Fibonacci.Proofs.Footprint
import Fibonacci.Proofs.IndexGrammar
import Fibonacci.Proofs.Indices

set_option autoImplicit false

namespace Fibonacci

namespace Command

/-! ## The form of an argument -/

namespace Argument

theorem of_of_head_ne {text : String} (h : text.toList.head? ≠ some '-') : of text = .word := by
  unfold of
  split <;> simp_all

/-- Two hyphens and what is behind them, which is split at the first sign. -/
theorem of_long {text : String} {rest : List Char} (htext : text.toList = '-' :: '-' :: rest)
    (hrest : rest ≠ []) :
    of text = .long (String.ofList (rest.takeWhile (· ≠ '=')))
      ((rest.dropWhile (· ≠ '=')).tail?.map String.ofList) := by
  obtain ⟨c, more, rfl⟩ := List.exists_cons_of_ne_nil hrest
  unfold of
  rw [htext]
  rcases hdrop : (c :: more).dropWhile (· ≠ '=') with _ | ⟨d, value⟩
  · simp only [hdrop]
    rfl
  · simp only [hdrop]
    rfl

section
variable {name : String} (hplain : '=' ∉ name.toList)
include hplain

theorem pass_of_plain : ∀ c ∈ name.toList, decide (c ≠ '=') = true := by
  intro c hc
  rw [decide_eq_true_iff]
  rintro rfl
  exact hplain hc

/-- A name alone. -/
theorem of_name (hne : name.toList ≠ []) : of ("--" ++ name) = .long name none := by
  have htext : ("--" ++ name).toList = '-' :: '-' :: name.toList := by
    simp
  have hpass := pass_of_plain hplain
  rw [of_long htext hne, List.takeWhile_eq_self_iff.mpr hpass,
    List.dropWhile_eq_nil_iff.mpr hpass, String.ofList_toList]
  rfl

/-- A name with the value behind the sign. -/
theorem of_binding (value : String) :
    of ("--" ++ name ++ "=" ++ value) = .long name (some value) := by
  have htext : ("--" ++ name ++ "=" ++ value).toList
      = '-' :: '-' :: (name.toList ++ '=' :: value.toList) := by
    simp
  have hpass := pass_of_plain hplain
  rw [of_long htext (by simp), List.takeWhile_append_of_pos hpass,
    List.dropWhile_append_of_pos hpass]
  simp

end

/-- A letter and what is behind it. -/
theorem of_letter {text : String} {letter : Char} {rest : List Char}
    (htext : text.toList = '-' :: letter :: rest) (hletter : letter ≠ '-') :
    of text = .short letter rest := by
  unfold of
  rw [htext]
  split <;> simp_all

end Argument

/-- Digits go on as a number. -/
theorem goesOnAsNumber_of_digits {shape : NumberShape} {digits : List Char}
    (h : ∀ c ∈ digits, Text.isDigit c = true) : goesOnAsNumber shape digits = true := by
  induction digits with
  | nil => rfl
  | cons c digits ih =>
    rw [List.forall_mem_cons] at h
    rw [goesOnAsNumber, if_pos h.1]
    exact ih h.2

/-! ## One option or word, in any grammar -/

section Grammar

variable {σ : Type} {g : Grammar σ} {s : State σ} {record record' : σ} {taken : Bool}
  {slot : Slot σ} {value : String}

/-- What is pending is good, and with it the record is `record`. -/
def State.Settles (s : State σ) (record : σ) (taken : Bool) : Prop :=
  s.settle = .ok ⟨record, .none, taken, false⟩

theorem settles_settled (record : σ) (taken : Bool) :
    State.Settles ⟨record, .none, taken, false⟩ record taken := rfl

theorem settles_held (hfill : slot.fill value record = .ok record') :
    State.Settles ⟨record, .held slot value, taken, false⟩ record' taken := by
  unfold State.Settles State.settle
  dsimp only
  rw [hfill]

/-- Nothing is awaited, and what has been taken has been taken. -/
theorem State.Settles.inv (h : s.Settles record taken) :
    s.onlyWords = false ∧ s.wordTaken = taken ∧ ∀ slot, s.pending ≠ .awaited slot := by
  rcases s with ⟨before, pending, taken', onlyWords⟩
  unfold Settles settle at h
  dsimp only at h
  split at h
  · obtain ⟨-, -, rfl, rfl⟩ := State.mk.inj (Except.ok.inj h)
    exact ⟨rfl, rfl, fun slot heq => by cases heq⟩
  · cases h
  · split at h
    · obtain ⟨-, -, rfl, rfl⟩ := State.mk.inj (Except.ok.inj h)
      exact ⟨rfl, rfl, fun slot heq => by cases heq⟩
    · cases h

theorem Grammar.takeOption_joined (h : s.Settles record taken)
    (hfill : slot.fill value record = .ok record') :
    takeOption s slot (some value) = .ok ⟨record', .none, taken, false⟩ := by
  unfold takeOption after
  rw [h]
  dsimp only
  rw [hfill]

theorem Grammar.takeOption_apart (h : s.Settles record taken) :
    takeOption s slot none = .ok ⟨record, .awaited slot, taken, false⟩ := by
  unfold takeOption after
  rw [h]

/-- A value in an argument of its own is kept for later. -/
theorem Grammar.step_awaited (g : Grammar σ) (hvalue : value.toList.head? ≠ some '-') :
    g.step ⟨record, .awaited slot, taken, false⟩ value
      = .ok ⟨record, .held slot value, taken, false⟩ := by
  unfold step
  rw [Argument.of_of_head_ne hvalue]
  rfl

/-- The first word that belongs to no option. -/
theorem Grammar.takeValue_word (hword : g.word = some slot) (h : s.Settles record false) :
    g.takeValue s value = .ok ⟨record, .held slot value, true, false⟩ := by
  obtain ⟨-, htaken, hawaited⟩ := h.inv
  have htake : g.takeWord s value = .ok ⟨record, .held slot value, true, false⟩ := by
    unfold takeWord after
    rw [hword, htaken, h]
  unfold takeValue
  split
  · next slot' hpending => exact absurd hpending (hawaited slot')
  · exact htake

/-- A number with a minus sign stands for a word where one can come. -/
theorem Grammar.step_negative (hnegatives : g.takesNegatives = true) (hword : g.word = some slot)
    (h : s.Settles record false) {digits : List Char} (htext : value.toList = '-' :: digits)
    (hdecimal : Text.IsDecimal digits) :
    g.step s value = .ok ⟨record, .held slot value, true, false⟩ := by
  obtain ⟨honly, htaken, hawaited⟩ := h.inv
  obtain ⟨hne, hdigits⟩ := hdecimal
  rcases digits with _ | ⟨first, rest⟩
  · exact absurd rfl hne
  have hisDigit : ∀ c ∈ first :: rest, Text.isDigit c = true :=
    fun c hc => Text.isDigit_iff.mpr (hdigits c hc)
  rw [List.forall_mem_cons] at hisDigit
  have hfirst : first ≠ '-' := Text.ne_of_class hisDigit.1 (by decide)
  have hnumeric : looksNumeric (first :: rest) = true := by
    rw [looksNumeric, hisDigit.1, goesOnAsNumber_of_digits hisDigit.2]
    rfl
  have hexpects : g.expectsNegative s = true := by
    unfold expectsNegative
    rw [hnegatives, hword, htaken]
    split <;> rfl
  unfold step
  rw [honly, Argument.of_letter htext hfirst]
  dsimp only
  rw [hexpects, hnumeric]
  exact takeValue_word hword h

end Grammar

/-! ## Items -/

/-- What a command line can give for an evaluation, each item as its text. -/
inductive Item where
  | index (text : String)
  | algorithm (text : String)
  | config (path : String)
  | report (spec : String)
  deriving DecidableEq, Repr

/-- A text that is taken for an index: one without a hyphen in front that is no
subcommand, or digits with a minus sign. -/
def IsIndexWord (text : String) : Prop :=
  (text.toList.head? ≠ some '-' ∧ text ∉ ["bench", "completions", "help"])
    ∨ ∃ digits, text.toList = '-' :: digits ∧ Text.IsDecimal digits

theorem IsIndexWord.isDecimal {text : String} {digits : List Char} (h : IsIndexWord text)
    (htext : text.toList = '-' :: digits) : Text.IsDecimal digits := by
  rcases h with ⟨hhead, -⟩ | ⟨digits', htext', hdecimal⟩
  · rw [htext] at hhead
    exact absurd rfl hhead
  · rw [htext] at htext'
    rw [(List.cons.inj htext').2]
    exact hdecimal

namespace Item

/-- The text. -/
def value : Item → String
  | index text => text
  | algorithm text => text
  | config path => path
  | report spec => spec

/-- The name of an option. -/
def name? : Item → Option String
  | index _ => none
  | algorithm _ => some "algorithm"
  | config _ => some "config"
  | report _ => some "report"

/-- The text is acceptable. -/
def Valid : Item → Prop
  | index text => IsIndexWord text
  | algorithm text => ∃ a, Algorithm.parse text = .ok a
  | config path => path ≠ ""
  | report _ => True

/-- The place that the item fills. -/
def slot : Item → Slot EvalArgs
  | index _ => EvalArgs.indexSlot
  | algorithm _ => EvalArgs.algorithmSlot
  | config _ => EvalArgs.configSlot
  | report _ => EvalArgs.reportSlot

/-- The arguments with the item among them. -/
def put (args : EvalArgs) : Item → EvalArgs
  | index text => { args with n := some text }
  | algorithm text => { args with algorithm := (Algorithm.parse text).toOption }
  | config path => { args with config := some path }
  | report spec => { args with report := some spec }

end Item

/-- The items that are given. -/
def items (n algorithm config report : Option String) : List Item :=
  (n.map .index).toList ++ (algorithm.map .algorithm).toList ++ (config.map .config).toList
    ++ (report.map .report).toList

/-- The ways to write an item. A value in an argument of its own has no hyphen in front. -/
inductive Spells : Item → List String → Prop
  | word {text : String} : Spells (.index text) [text]
  | apart {item : Item} {name : String} (hname : item.name? = some name)
      (hvalue : item.value.toList.head? ≠ some '-') : Spells item ["--" ++ name, item.value]
  | joined {item : Item} {name : String} (hname : item.name? = some name) :
      Spells item ["--" ++ name ++ "=" ++ item.value]
  | letterApart {text : String} (hvalue : text.toList.head? ≠ some '-') :
      Spells (.algorithm text) ["-a", text]
  | letterJoined {text : String} : Spells (.algorithm text) ["-a" ++ text]

theorem Item.fill_eq {item : Item} {args : EvalArgs} (hvalid : item.Valid)
    (hfree : item.slot.isSet args = false) :
    item.slot.fill item.value args = .ok (item.put args) := by
  unfold Slot.fill
  rw [hfree]
  rcases item with text | text | path | spec
  · rfl
  · obtain ⟨a, ha⟩ := hvalid
    change EvalArgs.algorithmSlot.store text args = .ok (put args (algorithm text))
    unfold EvalArgs.algorithmSlot put
    dsimp only
    rw [ha]
    rfl
  · change EvalArgs.configSlot.store path args = .ok (put args (config path))
    unfold EvalArgs.configSlot put
    dsimp only
    exact if_neg hvalid
  · rfl

/-- Items with places of their own do not get in each other's way. -/
theorem Item.isSet_put {item other : Item} (hne : item.slot.label ≠ other.slot.label)
    (args : EvalArgs) : other.slot.isSet (item.put args) = other.slot.isSet args := by
  rcases item with _ | _ | _ | _ <;> rcases other with _ | _ | _ | _ <;>
    first | rfl | exact absurd rfl hne

theorem Item.put_comm {item other : Item} (hne : item.slot.label ≠ other.slot.label)
    (args : EvalArgs) : other.put (item.put args) = item.put (other.put args) := by
  rcases item with _ | _ | _ | _ <;> rcases other with _ | _ | _ | _ <;>
    first | rfl | exact absurd rfl hne

/-! ## One item -/

/-- The state after some items: settled, it has their record, and the place for the index
is taken if the index is among them. -/
def Reached (s : State EvalArgs) (args : EvalArgs) : Prop := s.Settles args args.n.isSome

/-- The option of a name. -/
theorem takeLong_of_name {item : Item} {name : String} (hname : item.name? = some name)
    (s : State EvalArgs) (value : Option String) :
    EvalArgs.grammar.takeLong s name value = Grammar.takeOption s item.slot value := by
  rcases item with _ | _ | _ | _
  · cases hname
  all_goals
    obtain rfl := Option.some.inj hname
    rfl

theorem plain_of_name {item : Item} {name : String} (hname : item.name? = some name) :
    '=' ∉ name.toList ∧ name.toList ≠ [] := by
  rcases item with _ | _ | _ | _
  · cases hname
  all_goals
    obtain rfl := Option.some.inj hname
    decide

/-- The name of an algorithm has no sign in it that could be taken for that of a value. -/
theorem attached_of_parse {text : String} {a : Algorithm} (h : Algorithm.parse text = .ok a) :
    Grammar.attached text.toList = some text := by
  have hname : (Text.trim text.toList).map Char.toLower = a.name.toList :=
    eq_of_beq (Algorithm.parse_eq_ok_iff.mp h)
  have hsign : '=' ∉ text.toList := by
    intro hmem
    have hkept : '=' ∈ Text.trim text.toList := Text.mem_trim_of_not_blank hmem (by decide)
    have hlower : '='.toLower ∈ a.name.toList := by
      rw [← hname]
      exact List.mem_map_of_mem hkept
    cases a <;> exact absurd hlower (by decide)
  have hne : text.toList ≠ [] := by
    intro hnil
    rw [hnil] at hname
    cases a <;> exact absurd hname (by decide)
  unfold Grammar.attached
  split
  · next hnil => exact absurd hnil hne
  · next heq =>
    rw [heq] at hsign
    exact absurd List.mem_cons_self hsign
  · rw [String.ofList_toList]

/-- The option of the letter; no number starts with it. -/
theorem step_of_letter {s : State EvalArgs} (honly : s.onlyWords = false) {text : String}
    {rest : List Char} (htext : text.toList = '-' :: 'a' :: rest) :
    EvalArgs.grammar.step s text
      = Grammar.takeOption s EvalArgs.algorithmSlot (Grammar.attached rest) := by
  have hnumeric : looksNumeric ('a' :: rest) = false := rfl
  unfold Grammar.step
  rw [honly, Argument.of_letter htext (by decide)]
  dsimp only
  rw [hnumeric, Bool.and_false]
  rfl

theorem n_put_of_name {item : Item} {name : String} (hname : item.name? = some name)
    (args : EvalArgs) : (item.put args).n = args.n := by
  rcases item with _ | _ | _ | _
  · cases hname
  all_goals rfl

theorem foldlM_singleton {step : State EvalArgs → String → Except Stop (State EvalArgs)}
    {s s' : State EvalArgs} {word : String} (h : step s word = .ok s') :
    [word].foldlM step s = .ok s' := by
  rw [List.foldlM_cons, h]
  rfl

section OneItem

variable {s : State EvalArgs} {args : EvalArgs} {item : Item} (hreached : Reached s args)
  (hvalid : item.Valid) (hfree : item.slot.isSet args = false)
include hreached hvalid hfree

theorem reached_of_word {text : String} (hitem : item = .index text) :
    ∃ s', [text].foldlM EvalArgs.grammar.step s = .ok s' ∧ Reached s' (item.put args) := by
  obtain ⟨honly, -, -⟩ := hreached.inv
  have hfill := item.fill_eq hvalid hfree
  subst hitem
  -- the place for the index is free, so a word goes there
  have hsettles : s.Settles args false := by
    rw [← show args.n.isSome = false from hfree]
    exact hreached
  have hstep : EvalArgs.grammar.step s text
      = .ok ⟨args, .held EvalArgs.indexSlot text, true, false⟩ := by
    rcases hvalid with ⟨hhead, -⟩ | ⟨digits, htext, hdecimal⟩
    · unfold Grammar.step
      rw [honly, Argument.of_of_head_ne hhead]
      exact Grammar.takeValue_word rfl hsettles
    · exact Grammar.step_negative rfl rfl hsettles htext hdecimal
  exact ⟨_, foldlM_singleton hstep, settles_held hfill⟩

/-- A word that stands for the option, and the value after it. -/
theorem reached_of_apart {word : String} (hn : (item.put args).n = args.n)
    (hword : EvalArgs.grammar.step s word = Grammar.takeOption s item.slot none)
    (hvalue : item.value.toList.head? ≠ some '-') :
    ∃ s', [word, item.value].foldlM EvalArgs.grammar.step s = .ok s'
      ∧ Reached s' (item.put args) := by
  refine ⟨⟨args, .held item.slot item.value, args.n.isSome, false⟩, ?_, ?_⟩
  · rw [List.foldlM_cons, hword, Grammar.takeOption_apart hreached]
    exact foldlM_singleton (Grammar.step_awaited _ hvalue)
  · -- the value has not been looked at, and will be found good
    unfold Reached
    rw [hn]
    exact settles_held (item.fill_eq hvalid hfree)

/-- A word that holds the option and its value. -/
theorem reached_of_joined {word : String} (hn : (item.put args).n = args.n)
    (hword : EvalArgs.grammar.step s word
      = Grammar.takeOption s item.slot (some item.value)) :
    ∃ s', [word].foldlM EvalArgs.grammar.step s = .ok s' ∧ Reached s' (item.put args) := by
  rw [Grammar.takeOption_joined hreached (item.fill_eq hvalid hfree), ← hn] at hword
  exact ⟨_, foldlM_singleton hword, settles_settled _ _⟩

/-- An item that has not been given yet, in any of its spellings. -/
theorem reached_of_spells {words : List String} (hspells : Spells item words) :
    ∃ s', words.foldlM EvalArgs.grammar.step s = .ok s' ∧ Reached s' (item.put args) := by
  obtain ⟨honly, -, -⟩ := hreached.inv
  cases hspells with
  | word => exact reached_of_word hreached hvalid hfree rfl
  | @apart _ name hname hvalue =>
    obtain ⟨hplain, hne⟩ := plain_of_name hname
    refine reached_of_apart hreached hvalid hfree (n_put_of_name hname args) ?_ hvalue
    unfold Grammar.step
    rw [honly, Argument.of_name hplain hne]
    exact takeLong_of_name hname s none
  | @joined _ name hname =>
    obtain ⟨hplain, -⟩ := plain_of_name hname
    refine reached_of_joined hreached hvalid hfree (n_put_of_name hname args) ?_
    unfold Grammar.step
    rw [honly, Argument.of_binding hplain]
    exact takeLong_of_name hname s _
  | letterApart hvalue =>
    have htext : "-a".toList = ['-', 'a'] := by
      decide
    exact reached_of_apart hreached hvalid hfree rfl (step_of_letter honly htext) hvalue
  | @letterJoined text =>
    refine reached_of_joined hreached hvalid hfree rfl ?_
    obtain ⟨a, ha⟩ := hvalid
    have htext : ("-a" ++ text).toList = '-' :: 'a' :: text.toList := by
      simp
    rw [step_of_letter honly htext, attached_of_parse ha]
    rfl

end OneItem

/-! ## All items -/

theorem exists_reached {order : List Item} {words : List (List String)}
    (hwords : List.Forall₂ Spells order words) (hvalid : ∀ item ∈ order, item.Valid)
    (hnodup : (order.map fun item => item.slot.label).Nodup) {s : State EvalArgs}
    {args : EvalArgs} (hreached : Reached s args)
    (hfree : ∀ item ∈ order, item.slot.isSet args = false) :
    ∃ s', words.flatten.foldlM EvalArgs.grammar.step s = .ok s'
      ∧ Reached s' (order.foldl Item.put args) := by
  induction hwords generalizing s args with
  | nil => exact ⟨s, rfl, hreached⟩
  | @cons item spelling order words hspells _ ih =>
    rw [List.forall_mem_cons] at hvalid hfree
    rw [List.map_cons, List.nodup_cons] at hnodup
    obtain ⟨between, hstep, hbetween⟩ :=
      reached_of_spells hreached hvalid.1 hfree.1 hspells
    -- the places of the items to come stay free, since this one fills its own
    have hstill : ∀ other ∈ order, other.slot.isSet (item.put args) = false := by
      intro other hother
      have hne : item.slot.label ≠ other.slot.label := fun heq =>
        hnodup.1 (heq ▸ List.mem_map_of_mem hother)
      rw [Item.isSet_put hne, hfree.2 other hother]
    obtain ⟨s', hrest, hs'⟩ := ih hvalid.2 hnodup.2 hbetween hstill
    refine ⟨s', ?_, hs'⟩
    rw [List.flatten_cons, List.foldlM_append, hstep]
    exact hrest

theorem lookup_subcommands {word : String} (h : word ∉ ["bench", "completions", "help"]) :
    subcommands.lookup word = none := by
  rw [List.lookup_eq_none_iff]
  simpa [subcommands] using h

/-- A word with a hyphen in front is no subcommand. -/
theorem lookup_of_hyphen {word : String} (h : word.toList.head? = some '-') :
    subcommands.lookup word = none := by
  apply lookup_subcommands
  intro hmem
  simp only [List.mem_cons, List.not_mem_nil, or_false] at hmem
  rcases hmem with rfl | rfl | rfl <;> exact absurd h (by decide)

/-- No spelling starts with the name of a subcommand. -/
theorem lookup_of_spells {item : Item} {words : List String} (hspells : Spells item words)
    (hvalid : item.Valid) :
    ∃ first more, words = first :: more ∧ subcommands.lookup first = none := by
  cases hspells with
  | @word text =>
    refine ⟨text, [], rfl, ?_⟩
    rcases hvalid with ⟨-, hother⟩ | ⟨digits, htext, -⟩
    · exact lookup_subcommands hother
    · exact lookup_of_hyphen (by rw [htext]; rfl)
  | apart hname hvalue => exact ⟨_, _, rfl, lookup_of_hyphen (by simp)⟩
  | joined hname => exact ⟨_, _, rfl, lookup_of_hyphen (by simp)⟩
  | letterApart hvalue => exact ⟨_, _, rfl, lookup_of_hyphen rfl⟩
  | letterJoined => exact ⟨_, _, rfl, lookup_of_hyphen (by simp)⟩

theorem head?_flatten_of_spells {order : List Item} {words : List (List String)}
    (hwords : List.Forall₂ Spells order words) (hvalid : ∀ item ∈ order, item.Valid) :
    (words.flatten.head?.bind fun word => subcommands.lookup word) = none := by
  rcases hwords with _ | ⟨hspells, _⟩
  · rfl
  · obtain ⟨first, more, rfl, hlookup⟩ := lookup_of_spells hspells (hvalid _ List.mem_cons_self)
    exact hlookup

section
variable {n text config report : Option String} {algorithm : Option Algorithm}

theorem nodup_label_items (n text config report : Option String) :
    ((items n text config report).map fun item => item.slot.label).Nodup := by
  have hlabels : ((items n text config report).map fun item => item.slot.label).Sublist
      [EvalArgs.indexSlot.label, EvalArgs.algorithmSlot.label, EvalArgs.configSlot.label,
        EvalArgs.reportSlot.label] := by
    rcases n with _ | n <;> rcases text with _ | text <;> rcases config with _ | config <;>
      rcases report with _ | report <;> simp [items, Item.slot]
  exact hlabels.nodup (by decide)

theorem foldl_put_items (halgorithm : text.map Algorithm.parse = algorithm.map Except.ok) :
    (items n text config report).foldl Item.put {} = ⟨n, algorithm, config, report⟩ := by
  have hstart : (text.map Item.algorithm).toList.foldl Item.put ⟨n, none, none, none⟩
      = ⟨n, algorithm, none, none⟩ := by
    rcases text with _ | text <;> rcases algorithm with _ | a
    · rfl
    · cases halgorithm
    · cases halgorithm
    · change Item.put ⟨n, none, none, none⟩ (.algorithm text) = _
      rw [Item.put, Option.some.inj halgorithm]
      rfl
  have hindex : (n.map Item.index).toList.foldl Item.put {} = ⟨n, none, none, none⟩ := by
    rcases n with _ | n <;> rfl
  unfold items
  rw [List.foldl_append, List.foldl_append, List.foldl_append, hindex, hstart]
  rcases config with _ | config <;> rcases report with _ | report <;> rfl

theorem valid_of_mem_items (hn : ∀ index ∈ n, IsIndexWord index)
    (halgorithm : text.map Algorithm.parse = algorithm.map Except.ok)
    (hconfig : config ≠ some "") :
    ∀ item ∈ items n text config report, item.Valid := by
  intro item hitem
  simp only [items, List.mem_append, Option.mem_toList, Option.map_eq_some_iff] at hitem
  rcases hitem with ((⟨index, hmem, rfl⟩ | ⟨name, hmem, rfl⟩) | ⟨path, hmem, rfl⟩) |
    ⟨spec, hmem, rfl⟩
  · exact hn index hmem
  · rw [hmem] at halgorithm
    obtain ⟨a, -, ha⟩ := Option.map_eq_some_iff.mp halgorithm.symm
    exact ⟨a, ha.symm⟩
  · rintro rfl
    exact hconfig hmem
  · trivial

/-- The record does not depend on the order. -/
theorem foldl_put_of_perm {order : List Item}
    (horder : order.Perm (items n text config report)) :
    order.foldl Item.put {} = (items n text config report).foldl Item.put {} := by
  have hnodup := (horder.map fun item => item.slot.label).nodup_iff.mpr
    (nodup_label_items n text config report)
  refine horder.foldl_eq' ?_ _
  intro item hitem other hother args
  by_cases heq : item = other
  · rw [heq]
  · exact Item.put_comm (fun hlabel => heq (List.inj_on_of_nodup_map hnodup hitem hother hlabel))
      args

/-- Items in any order and in any spelling ask for an evaluation with just them. -/
theorem parse_of_spells (hn : ∀ index ∈ n, IsIndexWord index)
    (halgorithm : text.map Algorithm.parse = algorithm.map Except.ok)
    (hconfig : config ≠ some "") {order : List Item}
    (horder : order.Perm (items n text config report)) {words : List (List String)}
    (hwords : List.Forall₂ Spells order words) :
    Invocation.parse words.flatten = .ok (.evaluate ⟨n, algorithm, config, report⟩) := by
  have hvalid : ∀ item ∈ order, item.Valid := fun item hitem =>
    valid_of_mem_items hn halgorithm hconfig item (horder.mem_iff.mp hitem)
  have hnodup := (horder.map fun item => item.slot.label).nodup_iff.mpr
    (nodup_label_items n text config report)
  have hfree : ∀ item ∈ order, item.slot.isSet {} = false := by
    intro item _
    rcases item with _ | _ | _ | _ <;> rfl
  have hstart : Reached (State.initial {}) {} := rfl
  -- all places are free at the start, so the items are read one after the other
  obtain ⟨s, hread, hs⟩ := exists_reached hwords hvalid hnodup hstart hfree
  rw [foldl_put_of_perm horder, foldl_put_items halgorithm] at hs
  unfold Invocation.parse
  rw [head?_flatten_of_spells hwords hvalid]
  change readCommand .program EvalArgs.grammar {} words.flatten _ = _
  unfold readCommand Grammar.read
  rw [hread]
  dsimp only [bind, Except.bind]
  rw [show s.settle = _ from hs]

end

end Command

/-! ## A negative index -/

/-- Digits with a minus sign are read as an index, and refused as such. -/
theorem Index.parse_of_minus {text : String} {digits : List Char}
    (htext : text.toList = '-' :: digits) (hdecimal : Text.IsDecimal digits) :
    parse text = .error (.invalidArgument ("'" ++ text ++ "' is negative")) := by
  have hvisible : ∀ c ∈ '-' :: digits, Text.isBlank c = false := by
    rw [List.forall_mem_cons]
    refine ⟨by decide, fun c hc => ?_⟩
    exact Text.isBlank_of_isDigit (Text.isDigit_iff.mpr (hdecimal.2 c hc))
  have hshown : text = String.ofList ('-' :: digits) := by
    rw [← htext, String.ofList_toList]
  rw [parse, htext, Text.trim_of_not_blank hvisible, ofTrimmed_of_judged (.negative hdecimal),
    hshown]

namespace Program

/-- Where the text of the index is refused the run fails: over the configuration if that
cannot be had, and over the index otherwise. -/
theorem exists_ends_of_bad_index (environment : Environment) (args : Command.EvalArgs) (w : World)
    {text : String} {cause : EvalError} (given : args.n = some text)
    (refused : Index.parse text = .error cause) :
    ∃ ending failure, Ends environment args w ending ∧ ending.failure = some failure
      ∧ ending.printing = []
      ∧ ∀ config, configured w.files (Config.choosePath args.config environment.config)
          = .ok config → failure.message environment.libraries = cause.message := by
  rcases hconfig : configured w.files (Config.choosePath args.config environment.config)
    with fault | config
  · refine ⟨_, _, .unconfigured hconfig, rfl, rfl, ?_⟩
    intro config hok
    cases hok
  · have hindex : Settings.resolveIndex (overridesOf args).n config.n = .error (.index cause) := by
      simp only [overridesOf, given, Settings.resolveIndex, refused]
      rfl
    exact ⟨_, _, .unsettled hconfig (Settings.resolve_of_index_error hindex), rfl, rfl,
      fun _ _ => rfl⟩

theorem errorLine_negative (text : String) :
    "Error: " ++ (EvalError.invalidArgument ("'" ++ text ++ "' is negative")).message ++ "\n"
      = "Error: invalid argument: '" ++ text ++ "' is negative\n" := by
  apply String.toList_injective
  change ("Error: " ++ ("invalid argument: " ++ ("'" ++ text ++ "' is negative")) ++ "\n").toList
    = _
  simp

/-! ## Main statement -/

open Command (Item Spells IsIndexWord items Invocation)

/-- For an index, the name of an algorithm, the path of a configuration file and the text
for a report, each given or not, in every order and with every spelling of each. The
command line asks for an evaluation with exactly these four, the index as its text. If
that is digits with a minus sign, then in every environment and world the run fails with
status 1, prints nothing and leaves the files as they were; and where the configuration
can be had, it ends with the refusal of the index. Nothing else stops it as long as its
filter is read lossily and standard error takes notices. -/
theorem run_same_for_order_and_spelling (n text config report : Option String)
    (algorithm : Option Algorithm) (hn : ∀ index ∈ n, IsIndexWord index)
    (halgorithm : text.map Algorithm.parse = algorithm.map Except.ok)
    (hconfig : config ≠ some "") (order : List Item)
    (horder : order.Perm (items n text config report)) (words : List (List String))
    (hwords : List.Forall₂ Spells order words) :
    Invocation.parse words.flatten = .ok (.evaluate ⟨n, algorithm, config, report⟩)
    ∧ ∀ index ∈ n, ∀ digits, index.toList = '-' :: digits →
      ∀ (environment : Environment) (w : World),
      environment.libraries.ReadsLossily environment.filter → w.TakesNotices →
      ∃ final, (run words.flatten environment : StateM World UInt32).run w = (1, final)
        ∧ final.output = w.output ∧ final.files = w.files
        ∧ ∀ c, configured w.files (Config.choosePath config environment.config) = .ok c →
          final.diagnostics.getLast?
            = some (.text ("Error: invalid argument: '" ++ index ++ "' is negative\n")) := by
  have hparsed := Command.parse_of_spells hn halgorithm hconfig horder hwords
  refine ⟨hparsed, ?_⟩
  intro index hindex digits htext environment w lossy notices
  have hdecimal : Text.IsDecimal digits := (hn index hindex).isDecimal htext
  obtain ⟨ending, failure, hends, hfailure, hprinting, hmessage⟩ :=
    exists_ends_of_bad_index environment ⟨n, algorithm, config, report⟩ w hindex
      (Index.parse_of_minus htext hdecimal)
  obtain ⟨final, hrun, houtput, hfiles, hlast⟩ :=
    run_of_failure hparsed lossy notices hends hfailure hprinting
  refine ⟨final, hrun, houtput, hfiles, ?_⟩
  intro c hc
  rw [hlast, errorLine, hmessage c hc, errorLine_negative]

/-- A negative index between options, of which one has a hyphen for its value, one a blank
before it and one the name of a subcommand. -/
theorem run_negative_index_among_options :
    Invocation.parse ["--report=-", "-a Iterative", "-007", "--config", "help"]
      = .ok (.evaluate ⟨some "-007", some .iterative, some "help", some "-"⟩)
    ∧ ∃ final, (run ["--report=-", "-a Iterative", "-007", "--config", "help"] {} :
        StateM World UInt32).run { files := .fresh } = (1, final) ∧ final.output = "" := by
  have hconfig : (Item.config "help").name? = some "config" := rfl
  have hreport : (Item.report "-").name? = some "report" := rfl
  have hwords : List.Forall₂ Spells
      [.report "-", .algorithm " Iterative", .index "-007", .config "help"]
      [["--report=-"], ["-a Iterative"], ["-007"], ["--config", "help"]] :=
    .cons (.joined hreport) <| .cons .letterJoined <| .cons .word <|
      .cons (.apart hconfig (by decide)) .nil
  obtain ⟨hparsed, hnegative⟩ := run_same_for_order_and_spelling (some "-007")
    (some " Iterative") (some "help") (some "-") (some .iterative)
    (by
      rintro index ⟨⟩
      exact .inr ⟨"007".toList, rfl, Text.isNumeral_iff.mp (by decide)⟩)
    (by decide +kernel) (by decide) _ (by decide) _ hwords
  obtain ⟨final, hrun, houtput, -⟩ :=
    hnegative "-007" rfl "007".toList rfl {} { files := .fresh } rfl nofun
  exact ⟨hparsed, final, hrun, houtput⟩

end Program

end Fibonacci
