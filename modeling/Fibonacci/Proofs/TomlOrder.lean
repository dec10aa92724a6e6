/-
The order of the keys in a text.

A document is taken apart from its start to its end, so the keys that are names at the
top come in the order of their places. A place counts the characters that are left;
the places of the keys therefore get smaller, and between one key and the next some of
the text has been read. `Descends` says this of a list of places together with where
the reading started and where it stopped, which is what lets the parts be joined.
-/
import Fibonacci.Proofs.TomlForward

set_option autoImplicit false

namespace Fibonacci.Toml

/-! ## Places in order -/

/-- Places in the order of the text, the first no earlier than `first` and the last before
`last`. -/
inductive Descends : ℕ → List ℕ → ℕ → Prop
  | nil {first last : ℕ} (le : last ≤ first) : Descends first [] last
  | cons {first place next last : ℕ} {places : List ℕ} (start : place ≤ first)
      (stop : next < place) (more : Descends next places last) :
      Descends first (place :: places) last

namespace Descends

variable {first middle last : ℕ} {places more : List ℕ}

theorem le (h : Descends first places last) : last ≤ first := by
  induction h with
  | nil le => exact le
  | cons start stop _ ih => omega

theorem le_first (h : Descends first places last) {place : ℕ} (hplace : place ∈ places) :
    place ≤ first := by
  induction h with
  | nil _ => cases hplace
  | cons start stop _ ih =>
    rcases List.mem_cons.mp hplace with rfl | hplace
    · exact start
    · have hle := ih hplace
      omega

theorem pairwise (h : Descends first places last) :
    places.Pairwise fun place later => later < place := by
  induction h with
  | nil _ => exact .nil
  | cons start stop more ih =>
    refine .cons ?_ ih
    intro later hlater
    exact lt_of_le_of_lt (more.le_first hlater) stop

theorem of_le (h : Descends middle places last) (hle : middle ≤ first) :
    Descends first places last := by
  cases h with
  | nil le => exact .nil (by omega)
  | cons start stop more => exact .cons (by omega) stop more

theorem append (h : Descends first places middle) (h' : Descends middle more last) :
    Descends first (places ++ more) last := by
  induction h with
  | nil le => exact h'.of_le le
  | cons start stop _ ih => exact .cons start stop (ih h')

theorem of_last_le (h : Descends first places middle) (hle : last ≤ middle) :
    Descends first places last := by
  induction h with
  | nil le => exact .nil (by omega)
  | cons start stop _ ih => exact .cons start stop (ih hle)

theorem singleton {place : ℕ} (start : place ≤ first) (stop : last < place) :
    Descends first [place] last :=
  .cons start stop (.nil le_rfl)

end Descends

/-! ## Repetition -/

namespace Round

variable {α : Type}

/-- What a round has read. -/
def items : Round α → List α
  | .more item _ => [item]
  | .last item _ => [item]
  | .done _ => []

/-- What a round leaves. -/
def left : Round α → List Char
  | .more _ rest => rest
  | .last _ rest => rest
  | .done rest => rest

end Round

/-- Where every round goes on in order, all of them together do. -/
theorem descends_collect {α : Type} {round : List Char → Option (Round α)}
    (places : α → List ℕ)
    (hround : ∀ {text outcome}, round text = some outcome →
      Descends text.length (outcome.items.flatMap places) outcome.left.length)
    {text rest : List Char} {items : List α} (h : collect round text = some (items, rest)) :
    Descends text.length (items.flatMap places) rest.length := by
  -- on the bound of the loop, for whatever text a round starts from
  unfold collect at h
  generalize text.length + 1 = bound at h
  induction bound generalizing text items with
  | zero => cases h
  | succ bound ih =>
    rw [collectWithin] at h
    split at h
    · cases h
    · next hdone =>
      obtain ⟨rfl, rfl⟩ := Prod.mk.inj (Option.some.inj h)
      exact hround hdone
    · next hlast =>
      obtain ⟨rfl, rfl⟩ := Prod.mk.inj (Option.some.inj h)
      exact hround hlast
    · next item left hmore =>
      split at h
      · cases h
      · next items' rest' hrest =>
        obtain ⟨rfl, rfl⟩ := Prod.mk.inj (Option.some.inj h)
        have hfirst := hround hmore
        change Descends text.length (List.flatMap places [item]) left.length at hfirst
        rw [← List.singleton_append, List.flatMap_append]
        exact hfirst.append (ih hrest)

/-- A reader that leaves no more than it was given. -/
def Forward {α : Type} (reader : Reader α) : Prop :=
  ∀ {text rest : List Char} {item : α}, reader text = some (item, rest) →
    rest.length ≤ text.length

theorem forward_collect {α : Type} {round : List Char → Option (Round α)}
    (hround : ∀ {text outcome}, round text = some outcome →
      outcome.left.length ≤ text.length) : Forward (collect round) := by
  intro text rest items h
  refine (descends_collect (fun _ => []) ?_ h).le
  intro text outcome houtcome
  rw [List.flatMap_eq_nil_iff.mpr fun _ _ => rfl]
  exact .nil (hround houtcome)

theorem collect_ne_nil {α : Type} {round : List Char → Option (Round α)}
    (hround : ∀ {text outcome}, round text = some outcome → outcome.items ≠ [])
    {text rest : List Char} {items : List α} (h : collect round text = some (items, rest)) :
    items ≠ [] := by
  unfold collect collectWithin at h
  split at h
  · cases h
  · next hdone => exact absurd rfl (hround hdone)
  · obtain ⟨rfl, -⟩ := Prod.mk.inj (Option.some.inj h)
    exact List.cons_ne_nil _ _
  · split at h
    · cases h
    · obtain ⟨rfl, -⟩ := Prod.mk.inj (Option.some.inj h)
      exact List.cons_ne_nil _ _

/-- Everything that was collected was read by one of the rounds. -/
theorem exists_round_of_mem_collect {α : Type} {round : List Char → Option (Round α)}
    {text rest : List Char} {items : List α} (h : collect round text = some (items, rest))
    {item : α} (hitem : item ∈ items) :
    ∃ text outcome, round text = some outcome ∧ item ∈ outcome.items := by
  unfold collect at h
  generalize text.length + 1 = bound at h
  induction bound generalizing text items with
  | zero => cases h
  | succ bound ih =>
    rw [collectWithin] at h
    split at h
    · cases h
    · obtain ⟨rfl, -⟩ := Prod.mk.inj (Option.some.inj h)
      cases hitem
    · next hlast =>
      obtain ⟨rfl, -⟩ := Prod.mk.inj (Option.some.inj h)
      exact ⟨text, _, hlast, hitem⟩
    · next item' left hmore =>
      split at h
      · cases h
      · next items' rest' hrest =>
        obtain ⟨rfl, rfl⟩ := Prod.mk.inj (Option.some.inj h)
        rcases List.mem_cons.mp hitem with rfl | hitem
        · exact ⟨text, _, hmore, List.mem_singleton_self _⟩
        · exact ih hitem hrest

/-! ## Keys -/

/-- The places where keys start. -/
def Key.places (key : Key) : List ℕ := [key.span.start]

theorem descends_keyRound {text : List Char} {outcome : Round Key}
    (h : keyRound text = some outcome) :
    Descends text.length (outcome.items.flatMap Key.places) outcome.left.length
    ∧ outcome.items ≠ [] := by
  unfold keyRound at h
  dsimp only at h
  obtain ⟨⟨name, rest⟩, hname, h⟩ := Option.bind_eq_some_iff.mp h
  have hgap := length_skipGap_le text
  have hrest := length_skipGap_le rest
  have hlt := name?_length_lt hname
  dsimp only at h
  split at h
  · next left hleft =>
    have hcons := congrArg List.length hleft
    rw [List.length_cons] at hcons
    obtain rfl := Option.some.inj h
    refine ⟨.singleton hgap ?_, List.cons_ne_nil _ _⟩
    change left.length < (skipGap text).length
    omega
  · obtain rfl := Option.some.inj h
    refine ⟨.singleton hgap ?_, List.cons_ne_nil _ _⟩
    change (skipGap rest).length < (skipGap text).length
    omega

/-- The place where the first name of a key starts. -/
def placeOf (keys : List Key) : ℕ := (keys.head?.map fun key => key.span.start).getD 0

/-- A key starts within its text and before what is left. -/
theorem descends_key? {text rest : List Char} {keys : List Key}
    (h : key? text = some (keys, rest)) :
    Descends text.length [placeOf keys] rest.length := by
  unfold key? at h
  obtain ⟨⟨keys', left⟩, hcollect, h⟩ := Option.bind_eq_some_iff.mp h
  dsimp only at h
  split at h
  · obtain ⟨rfl, rfl⟩ := Prod.mk.inj (Option.some.inj h)
    have hne := collect_ne_nil (fun h => (descends_keyRound h).2) hcollect
    have hplaces := descends_collect Key.places (fun h => (descends_keyRound h).1) hcollect
    rcases keys' with _ | ⟨key, more⟩
    · exact absurd rfl hne
    · cases hplaces with
      | cons start stop more => exact .singleton start (lt_of_le_of_lt more.le stop)
  · cases h

theorem descends_binding? {text rest : List Char} {keys : List Key}
    (h : binding? text = some (keys, rest)) :
    Descends text.length [placeOf keys] rest.length := by
  unfold binding? at h
  obtain ⟨⟨keys', left⟩, hkey, h⟩ := Option.bind_eq_some_iff.mp h
  dsimp only at h
  split at h
  · next rest' =>
    obtain ⟨rfl, rfl⟩ := Prod.mk.inj (Option.some.inj h)
    have hgap := length_skipGap_le rest'
    refine (descends_key? hkey).of_last_le ?_
    rw [List.length_cons]
    omega
  · cases h

/-! ## Values -/

theorem descends_pair? {value : Reader Node} (hvalue : Forward value) {text rest : List Char}
    {pair : Pair} (h : pair? value text = some (pair, rest)) :
    Descends text.length [placeOf pair.keys] rest.length := by
  unfold pair? at h
  obtain ⟨⟨keys, left⟩, hbinding, h⟩ := Option.bind_eq_some_iff.mp h
  obtain ⟨⟨node, left'⟩, hnode, h⟩ := Option.bind_eq_some_iff.mp h
  obtain ⟨rfl, rfl⟩ := Prod.mk.inj (Option.some.inj h)
  exact (descends_binding? hbinding).of_last_le (hvalue hnode)

theorem elementRound_length_le {value : Reader Node} (hvalue : Forward value) {text : List Char}
    {outcome : Round Node} (h : elementRound value text = some outcome) :
    outcome.left.length ≤ text.length := by
  unfold elementRound at h
  obtain ⟨start, hstart, h⟩ := Option.bind_eq_some_iff.mp h
  have hskip := skipLines_length_le hstart
  split at h
  · obtain rfl := Option.some.inj h
    rw [List.length_cons] at hskip
    exact Nat.le_of_succ_le hskip
  · obtain ⟨⟨node, rest⟩, hnode, h⟩ := Option.bind_eq_some_iff.mp h
    obtain ⟨next, hnext, h⟩ := Option.bind_eq_some_iff.mp h
    have hread := hvalue hnode
    have hskip' := skipLines_length_le hnext
    split at h
    · obtain rfl := Option.some.inj h
      rw [List.length_cons] at hskip'
      dsimp only [Round.left]
      omega
    · obtain rfl := Option.some.inj h
      rw [List.length_cons] at hskip'
      dsimp only [Round.left]
      omega
    · cases h

theorem pairRound_length_le {value : Reader Node} (hvalue : Forward value) {text : List Char}
    {outcome : Round Pair} (h : pairRound value text = some outcome) :
    outcome.left.length ≤ text.length := by
  unfold pairRound at h
  obtain ⟨⟨pair, rest⟩, hpair, h⟩ := Option.bind_eq_some_iff.mp h
  have hread := (descends_pair? hvalue hpair).le
  have hgap := length_skipGap_le rest
  dsimp only at h
  split at h
  · next left hleft =>
    obtain rfl := Option.some.inj h
    rw [hleft, List.length_cons] at hgap
    dsimp only [Round.left]
    omega
  · next left hleft =>
    obtain rfl := Option.some.inj h
    rw [hleft, List.length_cons] at hgap
    dsimp only [Round.left]
    omega
  · cases h

theorem forward_braces? {value : Reader Node} (hvalue : Forward value) :
    Forward (braces? value) := by
  intro text rest node h
  have hgap := length_skipGap_le text
  unfold braces? at h
  split at h
  · next left hleft =>
    obtain ⟨-, rfl⟩ := Prod.mk.inj (Option.some.inj h)
    rw [hleft, List.length_cons] at hgap
    omega
  · obtain ⟨⟨pairs, left⟩, hpairs, h⟩ := Option.bind_eq_some_iff.mp h
    obtain ⟨entries, -, h⟩ := Option.bind_eq_some_iff.mp h
    obtain ⟨-, rfl⟩ := Prod.mk.inj (Option.some.inj h)
    exact le_trans (forward_collect (pairRound_length_le hvalue) hpairs) hgap

/-- Values are read forward, by induction on the depth that is left. -/
theorem forward_value? (depth : ℕ) : Forward (value? depth) := by
  induction depth with
  | zero =>
    intro text rest node h
    exact scalar_length_le h
  | succ depth ih =>
    intro text rest node h
    unfold value? at h
    split at h
    · next more =>
      obtain ⟨⟨nodes, left⟩, hnodes, heq⟩ := Option.map_eq_some_iff.mp h
      obtain ⟨-, rfl⟩ := Prod.mk.inj heq
      have hle := forward_collect (elementRound_length_le ih) hnodes
      rw [List.length_cons]
      omega
    · next more =>
      have hle := forward_braces? ih h
      rw [List.length_cons]
      omega
    · exact scalar_length_le h

/-! ## Lines and sections -/

theorem descends_pairLine? {text rest : List Char} {pair : Pair}
    (h : pairLine? text = some (pair, rest)) :
    Descends text.length [placeOf pair.keys] rest.length := by
  unfold pairLine? at h
  obtain ⟨⟨pair', left⟩, hpair, h⟩ := Option.bind_eq_some_iff.mp h
  obtain ⟨left', htrailing, h⟩ := Option.bind_eq_some_iff.mp h
  obtain ⟨rfl, rfl⟩ := Prod.mk.inj (Option.some.inj h)
  exact (descends_pair? (forward_value? maxDepth) hpair).of_last_le
    (trailing?_length_le htrailing)

theorem descends_header? {text rest : List Char} {header : Header}
    (h : header? text = some (header, rest)) :
    Descends text.length [placeOf header.keys] rest.length := by
  unfold header? at h
  split at h
  · obtain ⟨⟨keys, left⟩, hkey, h⟩ := Option.bind_eq_some_iff.mp h
    dsimp only at h
    split at h
    · obtain ⟨rfl, rfl⟩ := Prod.mk.inj (Option.some.inj h)
      have hplace := (descends_key? hkey).of_le (Nat.le_add_right _ 2)
      refine hplace.of_last_le ?_
      rw [List.length_cons, List.length_cons]
      omega
    · cases h
  · obtain ⟨⟨keys, left⟩, hkey, h⟩ := Option.bind_eq_some_iff.mp h
    dsimp only at h
    split at h
    · obtain ⟨rfl, rfl⟩ := Prod.mk.inj (Option.some.inj h)
      have hplace := (descends_key? hkey).of_le (Nat.le_add_right _ 1)
      exact hplace.of_last_le (by simp)
    · cases h
  · cases h

theorem descends_headerLine? {text rest : List Char} {header : Header}
    (h : headerLine? text = some (header, rest)) :
    Descends text.length [placeOf header.keys] rest.length := by
  unfold headerLine? at h
  obtain ⟨⟨header', left⟩, hheader, h⟩ := Option.bind_eq_some_iff.mp h
  obtain ⟨left', htrailing, h⟩ := Option.bind_eq_some_iff.mp h
  obtain ⟨rfl, rfl⟩ := Prod.mk.inj (Option.some.inj h)
  exact (descends_header? hheader).of_last_le (trailing?_length_le htrailing)

/-- The place of the key of a line, where it is a pair. -/
def linePlaces (line : Option Pair) : List ℕ := (line.map fun pair => placeOf pair.keys).toList

theorem flatMap_linePlaces (lines : List (Option Pair)) :
    lines.flatMap linePlaces = (lines.filterMap id).map fun pair => placeOf pair.keys := by
  induction lines with
  | nil => rfl
  | cons line lines ih =>
    rw [List.flatMap_cons, ih]
    rcases line with _ | pair <;> rfl

theorem empty_length_le {text rest : List Char} (h : Line.of text = .empty (some rest)) :
    rest.length ≤ text.length := by
  unfold Line.of at h
  split at h
  · cases h
  · cases h
  · next more =>
    have hcomment := length_skipComment_le ('#' :: more)
    have hend := lineEnd?_length_le (Line.empty.inj h)
    omega
  · next more =>
    obtain rfl := Option.some.inj (Line.empty.inj h)
    exact Nat.le_succ _
  · exact newline?_length_le (Line.empty.inj h)
  · cases h

theorem descends_lineRound {text : List Char} {outcome : Round (Option Pair)}
    (h : lineRound text = some outcome) :
    Descends text.length (outcome.items.flatMap linePlaces) outcome.left.length := by
  have hgap := length_skipGap_le text
  unfold lineRound at h
  dsimp only at h
  split at h
  · obtain rfl := Option.some.inj h
    exact .nil hgap
  · obtain rfl := Option.some.inj h
    exact .nil hgap
  · next rest hline =>
    obtain ⟨left, rfl, rfl⟩ := Option.map_eq_some_iff.mp h
    have hempty : left.length ≤ (skipGap text).length := empty_length_le hline
    exact .nil (le_trans hempty hgap)
  · obtain ⟨⟨pair, left⟩, hpair, rfl⟩ := Option.map_eq_some_iff.mp h
    exact (descends_pairLine? hpair).of_le hgap

theorem descends_pairs? {text rest : List Char} {pairs : List Pair}
    (h : pairs? text = some (pairs, rest)) :
    Descends text.length (pairs.map fun pair => placeOf pair.keys) rest.length := by
  unfold pairs? at h
  obtain ⟨⟨lines, left⟩, hlines, heq⟩ := Option.map_eq_some_iff.mp h
  obtain ⟨rfl, rfl⟩ := Prod.mk.inj heq
  have hplaces := descends_collect linePlaces descends_lineRound hlines
  rwa [flatMap_linePlaces] at hplaces

/-- The places of the keys of a section that are names at the top. -/
def Section.places (s : Section) : List ℕ :=
  match s.header with
  | none => s.pairs.map fun pair => placeOf pair.keys
  | some header => [placeOf header.keys]

theorem descends_sectionRound {text : List Char} {outcome : Round Section}
    (h : sectionRound text = some outcome) :
    Descends text.length (outcome.items.flatMap Section.places) outcome.left.length := by
  unfold sectionRound at h
  split at h
  · obtain rfl := Option.some.inj h
    exact .nil le_rfl
  · obtain ⟨⟨header, left⟩, hheader, h⟩ := Option.bind_eq_some_iff.mp h
    obtain ⟨⟨pairs, left'⟩, hpairs, h⟩ := Option.bind_eq_some_iff.mp h
    obtain rfl := Option.some.inj h
    exact (descends_headerLine? hheader).of_last_le (descends_pairs? hpairs).le

theorem length_skipMark_le (text : List Char) : (skipMark text).length ≤ text.length := by
  unfold skipMark
  split <;> simp

/-- The keys at the top stand in the order in which the sections and their pairs are
listed. -/
theorem descends_sections? {text : List Char} {sections : List Section}
    (h : sections? text = some sections) :
    Descends text.length (sections.flatMap Section.places) 0 := by
  unfold sections? at h
  obtain ⟨⟨pairs, left⟩, hpairs, h⟩ := Option.bind_eq_some_iff.mp h
  obtain ⟨⟨more, left'⟩, hmore, h⟩ := Option.bind_eq_some_iff.mp h
  obtain rfl := Option.some.inj h
  have hfirst := (descends_pairs? hpairs).of_le (length_skipMark_le text)
  have hrest := descends_collect Section.places descends_sectionRound hmore
  rw [List.flatMap_cons]
  exact hfirst.append (hrest.of_last_le (Nat.zero_le _))

end Fibonacci.Toml
