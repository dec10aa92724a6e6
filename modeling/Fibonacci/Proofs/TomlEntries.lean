/-
The entries of a document.

Whatever a statement of a document does further down, at the top it adds an entry, puts
another value into one, or moves one to the end under the key of its own header. These
three are `Change`, and every statement makes one at its first name. So a document is a
chain of changes (`Changes`), and what holds of its entries is kept by each of the three:
they have the names of the statements, all different, and an integer among them has
sixty-four bits.

They come in the order in which their names first appear in the text, unless an entry is
moved: a table that `[a.b]` has made stands at the place of a later `[a]`. `InOrder` says
that the order is that of the text, and `inOrder_of_noneReopens` that it is where no header
of this kind comes up.
-/
import Fibonacci.Proofs.TomlOrder
import Mathlib.Data.List.Nodup

set_option autoImplicit false

namespace Fibonacci.Toml

/-! ## Integers -/

/-- An integer has sixty-four bits with a sign; all else is in range. -/
def Node.InRange : Node → Prop
  | .integer value => Number.minInteger ≤ value ∧ value ≤ Number.maxInteger
  | _ => True

namespace Number

theorem inRange?_eq_some {value value' : ℤ} (h : inRange? value = some value') :
    (Node.integer value').InRange := by
  unfold inRange? at h
  split at h
  · next hrange =>
    obtain rfl := Option.some.inj h
    exact hrange
  · cases h

theorem inRange_based? {base : ℕ} {isDigit : Char → Bool} {text rest : List Char} {value : ℤ}
    (h : based? base isDigit text = some (value, rest)) : (Node.integer value).InRange := by
  unfold based? at h
  obtain ⟨⟨digits, left⟩, -, h⟩ := Option.bind_eq_some_iff.mp h
  obtain ⟨value', hrange, h⟩ := Option.bind_eq_some_iff.mp h
  obtain ⟨rfl, -⟩ := Prod.mk.inj (Option.some.inj h)
  exact inRange?_eq_some hrange

theorem inRange_integer? {text rest : List Char} {value : ℤ}
    (h : integer? text = some (value, rest)) : (Node.integer value).InRange := by
  unfold integer? at h
  split at h
  · exact inRange_based? h
  · exact inRange_based? h
  · exact inRange_based? h
  · obtain ⟨⟨digits, left⟩, -, h⟩ := Option.bind_eq_some_iff.mp h
    obtain ⟨value', hrange, h⟩ := Option.bind_eq_some_iff.mp h
    obtain ⟨rfl, -⟩ := Prod.mk.inj (Option.some.inj h)
    exact inRange?_eq_some hrange

end Number

theorem inRange_numeric? {text rest : List Char} {node : Node}
    (h : numeric? text = some (node, rest)) : node.InRange := by
  unfold numeric? at h
  split at h
  · obtain ⟨rfl, -⟩ := Prod.mk.inj (Option.some.inj h)
    trivial
  · split at h
    · obtain ⟨rfl, -⟩ := Prod.mk.inj (Option.some.inj h)
      trivial
    · obtain ⟨⟨value, left⟩, hinteger, heq⟩ := Option.map_eq_some_iff.mp h
      obtain ⟨rfl, -⟩ := Prod.mk.inj heq
      exact Number.inRange_integer? hinteger

theorem inRange_scalar {text rest : List Char} {node : Node}
    (h : scalar text = some (node, rest)) : node.InRange := by
  unfold scalar at h
  split at h
  · cases h
  · split at h
    · obtain ⟨quoted, -, heq⟩ := Option.map_eq_some_iff.mp h
      obtain ⟨rfl, -⟩ := Prod.mk.inj heq
      trivial
    · split at h
      · exact inRange_numeric? h
      · split at h
        · obtain ⟨rfl, -⟩ := Prod.mk.inj (Option.some.inj h)
          trivial
        · obtain ⟨rfl, -⟩ := Prod.mk.inj (Option.some.inj h)
          trivial
        · obtain ⟨float, -, heq⟩ := Option.map_eq_some_iff.mp h
          obtain ⟨rfl, -⟩ := Prod.mk.inj heq
          trivial

theorem inRange_value? {depth : ℕ} {text rest : List Char} {node : Node}
    (h : value? depth text = some (node, rest)) : node.InRange := by
  rcases depth with _ | depth
  · exact inRange_scalar h
  · unfold value? at h
    split at h
    · obtain ⟨nodes, -, heq⟩ := Option.map_eq_some_iff.mp h
      obtain ⟨rfl, -⟩ := Prod.mk.inj heq
      trivial
    · unfold braces? at h
      split at h
      · obtain ⟨rfl, -⟩ := Prod.mk.inj (Option.some.inj h)
        trivial
      · obtain ⟨pairs, -, h⟩ := Option.bind_eq_some_iff.mp h
        obtain ⟨entries, -, h⟩ := Option.bind_eq_some_iff.mp h
        obtain ⟨rfl, -⟩ := Prod.mk.inj (Option.some.inj h)
        trivial
    · exact inRange_scalar h

theorem inRange_lineRound {text : List Char} {outcome : Round (Option Pair)}
    (h : lineRound text = some outcome) {pair : Pair} (hpair : some pair ∈ outcome.items) :
    pair.node.InRange := by
  unfold lineRound at h
  dsimp only at h
  split at h
  · obtain rfl := Option.some.inj h
    cases hpair
  · obtain rfl := Option.some.inj h
    cases hpair
  · obtain ⟨left, -, rfl⟩ := Option.map_eq_some_iff.mp h
    cases List.mem_singleton.mp hpair
  · obtain ⟨⟨pair', left⟩, hline, rfl⟩ := Option.map_eq_some_iff.mp h
    obtain rfl := Option.some.inj (List.mem_singleton.mp hpair)
    unfold pairLine? at hline
    obtain ⟨⟨read, left'⟩, hread, hline⟩ := Option.bind_eq_some_iff.mp hline
    obtain ⟨left'', -, hline⟩ := Option.bind_eq_some_iff.mp hline
    obtain ⟨rfl, -⟩ := Prod.mk.inj (Option.some.inj hline)
    unfold pair? at hread
    obtain ⟨keys, -, hread⟩ := Option.bind_eq_some_iff.mp hread
    obtain ⟨⟨node, left'''⟩, hnode, hread⟩ := Option.bind_eq_some_iff.mp hread
    obtain ⟨rfl, -⟩ := Prod.mk.inj (Option.some.inj hread)
    exact inRange_value? hnode

theorem inRange_pairs? {text rest : List Char} {pairs : List Pair}
    (h : pairs? text = some (pairs, rest)) : ∀ pair ∈ pairs, pair.node.InRange := by
  intro pair hpair
  unfold pairs? at h
  obtain ⟨⟨lines, left⟩, hlines, heq⟩ := Option.map_eq_some_iff.mp h
  obtain ⟨rfl, -⟩ := Prod.mk.inj heq
  obtain ⟨line, hline, rfl⟩ := List.mem_filterMap.mp hpair
  obtain ⟨left', outcome, hround, hmem⟩ := exists_round_of_mem_collect hlines hline
  exact inRange_lineRound hround hmem

/-- The values of the pairs before the first header, and of those after any. -/
theorem inRange_sections? {text : List Char} {sections : List Section}
    (h : sections? text = some sections) :
    ∀ s ∈ sections, ∀ pair ∈ s.pairs, pair.node.InRange := by
  intro s hs
  unfold sections? at h
  obtain ⟨⟨pairs, left⟩, hpairs, h⟩ := Option.bind_eq_some_iff.mp h
  obtain ⟨⟨more, left'⟩, hmore, h⟩ := Option.bind_eq_some_iff.mp h
  obtain rfl := Option.some.inj h
  rcases List.mem_cons.mp hs with rfl | hs
  · exact inRange_pairs? hpairs
  · obtain ⟨text', outcome, hround, hmem⟩ := exists_round_of_mem_collect hmore hs
    unfold sectionRound at hround
    split at hround
    · obtain rfl := Option.some.inj hround
      cases hmem
    · obtain ⟨header, -, hround⟩ := Option.bind_eq_some_iff.mp hround
      obtain ⟨⟨pairs', left''⟩, hpairs', hround⟩ := Option.bind_eq_some_iff.mp hround
      obtain rfl := Option.some.inj hround
      obtain rfl := List.mem_singleton.mp hmem
      exact inRange_pairs? hpairs'

/-! ## What a statement does at the top -/

/-- What of a statement matters at the top. -/
structure Statement where
  /-- The first name. -/
  key : Key
  /-- Whether it is a header of this one name, which opens a table. -/
  opens : Bool

/-- The statements of a section that have a name at the top: its pairs where there is no
header, and the header where there is one. -/
def Section.statements (s : Section) : List Statement :=
  match s.header with
  | none => s.pairs.filterMap fun pair => pair.keys.head?.map fun key => ⟨key, false⟩
  | some header =>
    (header.keys.head?.map fun key => ⟨key, !header.element && header.keys.length == 1⟩).toList

namespace Entries

/-- What a statement makes of the entries at the top. -/
inductive Change (entries : Entries) (s : Statement) : Entries → Prop
  /-- One more entry. -/
  | added {span : Option Span} {node : Node} (fresh : entries.find? s.key.name = none)
      (range : node.InRange) : Change entries s (entries.add s.key span node)
  /-- Another value under the key that is there. -/
  | replaced {old : Entry Node} {span : Option Span} {node : Node}
      (there : entries.find? s.key.name = some old) (range : node.InRange) :
      Change entries s (entries.replace s.key.name span node)
  /-- The entry anew at the end, under the key of this statement. -/
  | moved {span : Option Span} {node : Node} (opens : s.opens = true) (range : node.InRange) :
      Change entries s ((entries.erase s.key.name).add s.key span node)

variable {entries entries' : Entries}

/-- A change at the top that waits for one further down. -/
theorem Change.of_bind {s : Statement} {below : Option Entries} {result : Entries → Entries}
    (h : (below >>= fun inner => pure (result inner)) = some entries')
    (hresult : ∀ inner, Change entries s (result inner)) :
    Change entries s entries' := by
  obtain ⟨inner, -, h⟩ := Option.bind_eq_some_iff.mp h
  obtain rfl := Option.some.inj h
  exact hresult inner

theorem change_place {span : Span} {node : Node} (hnode : node.InRange) {keys : List Key}
    (h : place span node keys entries = some entries') :
    ∃ key more, keys = key :: more ∧ Change entries ⟨key, false⟩ entries' := by
  unfold place at h
  split at h
  · cases h
  · next key =>
    refine ⟨key, [], rfl, ?_⟩
    split at h
    · cases h
    · next hfresh =>
      obtain rfl := Option.some.inj h
      exact .added (s := ⟨key, false⟩) hfresh hnode
  · next key more _ =>
    refine ⟨key, more, rfl, ?_⟩
    split at h
    · next hfresh => exact .of_bind h fun _ => .added (s := ⟨key, false⟩) hfresh trivial
    · next there => exact .of_bind h fun _ => .replaced (s := ⟨key, false⟩) there trivial
    · next there =>
      split at h
      · cases h
      · exact .of_bind h fun _ => .replaced (s := ⟨key, false⟩) there trivial
    · next there =>
      split at h
      · cases h
      · exact .of_bind h fun _ => .replaced (s := ⟨key, false⟩) there trivial
    · cases h

section
variable {s : Statement}

theorem change_descend {change : Entries → Option Entries} {more : List Key}
    (h : descend change (s.key :: more) entries = some entries') : Change entries s entries' := by
  unfold descend at h
  split at h
  · next hfresh => exact .of_bind h fun _ => .added hfresh trivial
  · cases h
  · next there => exact .of_bind h fun _ => .replaced there trivial
  · next there => exact .of_bind h fun _ => .replaced there trivial
  · cases h

theorem change_openTable {span : Span} {fill : Entries → Option Entries} (opens : s.opens = true)
    (h : openTable s.key span fill entries = some entries') : Change entries s entries' := by
  unfold openTable at h
  split at h
  · next hfresh => exact .of_bind h fun _ => .added hfresh trivial
  · exact .of_bind h fun _ => .moved opens trivial
  · cases h

theorem change_openElement {span : Span} {fill : Entries → Option Entries}
    (h : openElement s.key span fill entries = some entries') : Change entries s entries' := by
  unfold openElement at h
  split at h
  · next hfresh => exact .of_bind h fun _ => .added hfresh trivial
  · next there => exact .of_bind h fun _ => .replaced there trivial
  · cases h

end

/-! ## A document as a chain of changes -/

/-- What statements make of the entries at the top, one after the other. -/
inductive Changes : Entries → List Statement → Entries → Prop
  | nil {entries : Entries} : Changes entries [] entries
  | cons {first next last : Entries} {s : Statement} {statements : List Statement}
      (change : Change first s next) (more : Changes next statements last) :
      Changes first (s :: statements) last

theorem Changes.append {first next last : Entries} {statements more : List Statement}
    (h : Changes first statements next) (h' : Changes next more last) :
    Changes first (statements ++ more) last := by
  induction h with
  | nil => exact h'
  | cons change _ ih => exact .cons change (ih h')

/-- The places where the first names of statements start. -/
def starts (statements : List Statement) : List ℕ := statements.map fun s => s.key.span.start

theorem changes_placeAll {pairs : List Pair} (hrange : ∀ pair ∈ pairs, pair.node.InRange)
    (h : placeAll pairs entries = some entries') :
    Changes entries (Section.statements ⟨none, pairs⟩) entries'
    ∧ Section.places ⟨none, pairs⟩ = starts (Section.statements ⟨none, pairs⟩) := by
  induction pairs generalizing entries with
  | nil =>
    obtain rfl := Option.some.inj h
    exact ⟨.nil, rfl⟩
  | cons pair pairs ih =>
    obtain ⟨between, hfirst, hrest⟩ := Option.bind_eq_some_iff.mp h
    obtain ⟨key, more, hkeys, hchange⟩ :=
      change_place (hrange pair List.mem_cons_self) hfirst
    obtain ⟨hmore, hplaces⟩ :=
      ih (fun pair hpair => hrange pair (List.mem_cons_of_mem _ hpair)) hrest
    have hstatements : Section.statements ⟨none, pair :: pairs⟩
        = ⟨key, false⟩ :: Section.statements ⟨none, pairs⟩ := by
      simp [Section.statements, hkeys]
    have hfirst : Section.places ⟨none, pair :: pairs⟩
        = key.span.start :: Section.places ⟨none, pairs⟩ := by
      simp [Section.places, placeOf, hkeys]
    rw [hstatements, hfirst, hplaces]
    exact ⟨.cons hchange hmore, rfl⟩

/-- A section with a header is one statement at the top, whatever is below the header. -/
theorem changes_addSection {s : Section} (hrange : ∀ pair ∈ s.pairs, pair.node.InRange)
    (h : entries.addSection s = some entries') :
    Changes entries s.statements entries' ∧ s.places = starts s.statements := by
  rcases s with ⟨_ | header, pairs⟩
  · exact changes_placeAll hrange h
  · unfold addSection at h
    dsimp only at h
    rcases hkeys : header.keys with _ | ⟨key, more⟩
    · rw [hkeys] at h
      cases h
    · have hstatements : Section.statements ⟨some header, pairs⟩
          = [⟨key, !header.element && more.length == 0⟩] := by
        simp [Section.statements, hkeys]
      have hplaces : Section.places ⟨some header, pairs⟩ = [key.span.start] := by
        simp [Section.places, placeOf, hkeys]
      rw [hstatements, hplaces]
      refine ⟨.cons ?_ .nil, rfl⟩
      rw [hkeys] at h
      rcases more with _ | ⟨key', more⟩
      · dsimp only [List.getLast?_singleton, List.dropLast_singleton, descend] at h
        split at h
        · exact change_openElement h
        · next helement => exact change_openTable (by simp [helement]) h
      · rw [List.dropLast_cons_cons] at h
        split at h
        · cases h
        · exact change_descend (s := ⟨key, _⟩) h

/-- Sections one after the other. -/
theorem changes_foldlM_addSection {sections : List Section}
    (hrange : ∀ s ∈ sections, ∀ pair ∈ s.pairs, pair.node.InRange)
    (h : sections.foldlM Entries.addSection entries = some entries') :
    Changes entries (sections.flatMap Section.statements) entries'
    ∧ sections.flatMap Section.places = starts (sections.flatMap Section.statements) := by
  induction sections generalizing entries with
  | nil =>
    obtain rfl := Option.some.inj h
    exact ⟨.nil, rfl⟩
  | cons s sections ih =>
    obtain ⟨between, hfirst, hrest⟩ := Option.bind_eq_some_iff.mp h
    obtain ⟨hchanges, hplaces⟩ := changes_addSection (hrange s List.mem_cons_self) hfirst
    obtain ⟨hmore, hplaces'⟩ := ih (fun s hs => hrange s (List.mem_cons_of_mem _ hs)) hrest
    rw [List.flatMap_cons, List.flatMap_cons, hplaces, hplaces']
    exact ⟨hchanges.append hmore, (List.map_append ..).symm⟩

/-! ## Names and values -/

/-- Entries with different names and values in range. -/
structure Sound (entries : Entries) : Prop where
  names : (entries.map fun entry => entry.key.name).Nodup
  range : ∀ entry ∈ entries, entry.node.InRange

/-- The names after `replace` are those before. -/
theorem map_name_replace (name : String) (span : Option Span) (node : Node) :
    (entries.replace name span node).map (fun entry => entry.key.name)
      = entries.map fun entry => entry.key.name := by
  unfold replace
  rw [List.map_map]
  refine List.map_congr_left fun entry _ => ?_
  simp only [Function.comp]
  split <;> rfl

namespace Sound

theorem add (h : Sound entries) {key : Key}
    (fresh : ∀ entry ∈ entries, entry.key.name ≠ key.name) {span : Option Span} {node : Node}
    (range : node.InRange) : Sound (entries.add key span node) where
  names := by
    unfold Entries.add
    rw [List.map_append, List.nodup_append]
    refine ⟨h.names, List.nodup_singleton _, ?_⟩
    intro name hname name' hname'
    obtain ⟨entry, hentry, rfl⟩ := List.mem_map.mp hname
    rw [List.mem_singleton.mp hname']
    exact fresh entry hentry
  range := by
    intro entry hentry
    rcases List.mem_append.mp hentry with hold | hnew
    · exact h.range entry hold
    · rw [List.mem_singleton.mp hnew]
      exact range

theorem replace (h : Sound entries) {name : String} {span : Option Span} {node : Node}
    (range : node.InRange) : Sound (entries.replace name span node) where
  names := by
    rw [map_name_replace]
    exact h.names
  range := by
    intro entry hentry
    obtain ⟨old, hold, rfl⟩ := List.mem_map.mp hentry
    split
    · exact range
    · exact h.range old hold

theorem erase (h : Sound entries) (name : String) : Sound (entries.erase name) :=
  have hsub : (entries.erase name).Sublist entries := List.filter_sublist
  ⟨(hsub.map _).nodup h.names, fun entry hentry => h.range entry (hsub.subset hentry)⟩

theorem change {s : Statement} (h : Sound entries) (hchange : Change entries s entries') :
    Sound entries' := by
  cases hchange with
  | added fresh range =>
    refine h.add ?_ range
    intro entry hentry heq
    have hnone := List.find?_eq_none.mp fresh entry hentry
    rw [heq, beq_self_eq_true] at hnone
    exact hnone rfl
  | replaced _ range => exact h.replace range
  | moved _ range =>
    refine (h.erase s.key.name).add ?_ range
    intro entry hentry
    exact bne_iff_ne.mp (List.mem_filter.mp hentry).2

theorem changes {statements : List Statement} (h : Sound entries)
    (hchanges : Changes entries statements entries') : Sound entries' := by
  induction hchanges with
  | nil => exact h
  | cons hchange _ ih => exact ih (h.change hchange)

end Sound

/-! ## The order of the names -/

/-- The names of statements, as often as they stand there. -/
def namesOf (statements : List Statement) : List String := statements.map fun s => s.key.name

/-- The entries have these names, and no others. -/
def Covers (names : List String) (entries : Entries) : Prop :=
  ∀ name, name ∈ names ↔ ∃ entry ∈ entries, entry.key.name = name

/-- The entries come in the order in which their names first appear among these. -/
def InOrder (names : List String) (entries : Entries) : Prop :=
  entries.Pairwise fun entry later => names.idxOf entry.key.name < names.idxOf later.key.name

/-- No header opens a table whose name has been there before. -/
def NoneReopens (statements : List Statement) : Prop :=
  statements.Pairwise fun earlier s => s.opens = true → earlier.key.name ≠ s.key.name

section
variable {names : List String} {s : Statement}

theorem Covers.notMem_of_find?_eq_none (h : Covers names entries) {name : String}
    (hnone : entries.find? name = none) : name ∉ names := by
  intro hmem
  obtain ⟨entry, hentry, hname⟩ := (h name).mp hmem
  simpa [hname] using List.find?_eq_none.mp hnone entry hentry

theorem covers_iff : Covers names entries
    ↔ ∀ name, name ∈ names ↔ name ∈ entries.map fun entry => entry.key.name := by
  simp only [Covers, List.mem_map]

theorem inOrder_iff : InOrder names entries
    ↔ (entries.map fun entry => entry.key.name).Pairwise
      fun name later => names.idxOf name < names.idxOf later := by
  rw [List.pairwise_map, InOrder]

theorem Covers.change (h : Covers names entries) (hchange : Change entries s entries') :
    Covers (names ++ [s.key.name]) entries' := by
  rw [covers_iff] at h ⊢
  intro name
  rw [List.mem_append, List.mem_singleton, h]
  cases hchange with
  | added _ _ => simp [add]
  | replaced there _ =>
    -- the name of the statement is among those of the entries already
    rw [map_name_replace]
    refine or_iff_left_of_imp ?_
    rintro rfl
    exact List.mem_map.mpr
      ⟨_, List.mem_of_find?_eq_some there, by simpa using List.find?_some there⟩
  | moved _ _ =>
    -- what is erased comes back at the end
    by_cases heq : name = s.key.name
    · simp [add, heq]
    · simp only [add, erase, List.map_append, List.mem_append, List.mem_map, List.mem_filter]
      grind

/-- A statement that moves nothing keeps the order: a new name comes last on both sides. -/
theorem InOrder.change (h : InOrder names entries) (hcovers : Covers names entries)
    (hchange : Change entries s entries') (hnew : s.opens = true → s.key.name ∉ names) :
    InOrder (names ++ [s.key.name]) entries' := by
  -- the entries that are there have their first appearance where they had it
  have hkept : ∀ entry ∈ entries, (names ++ [s.key.name]).idxOf entry.key.name
      = names.idxOf entry.key.name :=
    fun entry hentry => List.idxOf_append_of_mem ((hcovers _).mpr ⟨entry, hentry, rfl⟩)
  have hold : InOrder (names ++ [s.key.name]) entries := by
    refine h.imp_of_mem ?_
    intro entry later hentry hlater hlt
    rw [hkept entry hentry, hkept later hlater]
    exact hlt
  have hadd : ∀ {kept : Entries} {span : Option Span} {node : Node}, kept.Sublist entries →
      s.key.name ∉ names → InOrder (names ++ [s.key.name]) (kept.add s.key span node) := by
    intro kept span node hsub hfresh
    refine List.pairwise_append.mpr ⟨hold.sublist hsub, List.pairwise_singleton _ _, ?_⟩
    intro entry hentry later hlater
    rw [List.mem_singleton.mp hlater, hkept entry (hsub.subset hentry),
      List.idxOf_append_of_notMem hfresh]
    have hlt := List.idxOf_lt_length_of_mem
      ((hcovers _).mpr ⟨entry, hsub.subset hentry, rfl⟩)
    omega
  cases hchange with
  | added fresh _ => exact hadd (List.Sublist.refl _) (hcovers.notMem_of_find?_eq_none fresh)
  | replaced _ _ =>
    rw [inOrder_iff] at hold ⊢
    rw [map_name_replace]
    exact hold
  | moved opens _ => exact hadd List.filter_sublist (hnew opens)

theorem Covers.changes {statements : List Statement} (h : Covers names entries)
    (hchanges : Changes entries statements entries') :
    Covers (names ++ namesOf statements) entries' := by
  induction hchanges generalizing names with
  | nil => simpa [namesOf] using h
  | cons hchange _ ih => simpa [namesOf] using ih (h.change hchange)

theorem InOrder.changes {statements : List Statement} (h : InOrder names entries)
    (hcovers : Covers names entries) (hchanges : Changes entries statements entries')
    (hnew : ∀ s ∈ statements, s.opens = true → s.key.name ∉ names)
    (hnone : NoneReopens statements) : InOrder (names ++ namesOf statements) entries' := by
  induction hchanges generalizing names with
  | nil => simpa [namesOf] using h
  | @cons _ _ _ s statements hchange _ ih =>
    obtain ⟨hlater, hnone⟩ := List.pairwise_cons.mp hnone
    obtain ⟨hfirst, hrest⟩ := List.forall_mem_cons.mp hnew
    have hnext := ih (h.change hcovers hchange hfirst) (hcovers.change hchange) ?_ hnone
    · simpa [namesOf] using hnext
    · intro t ht opens
      rw [List.mem_append, List.mem_singleton, not_or]
      exact ⟨hrest t ht opens, (hlater t ht opens).symm⟩

end

end Entries

/-! ## Whole documents -/

/-- The statements of a text that have a name at the top, in order. -/
def statements (text : List Char) : List Statement :=
  ((sections? text).getD []).flatMap Section.statements

/-- The names at the top of a text, in order, as often as they stand there. -/
def topNames (text : List Char) : List String := Entries.namesOf (statements text)

section
variable {text : List Char} {document : Document} (h : Document.parse text = some document)
include h

/-- A document comes about by the changes of its statements, and these stand in the order of
the text. -/
theorem Document.changes_of_parse :
    Entries.Changes [] (statements text) document.entries
    ∧ Descends text.length (Entries.starts (statements text)) 0 := by
  unfold parse at h
  obtain ⟨sections, hsections, h⟩ := Option.bind_eq_some_iff.mp h
  obtain ⟨entries, hadd, h⟩ := Option.bind_eq_some_iff.mp h
  obtain rfl := Option.some.inj h
  obtain ⟨hchanges, hplaces⟩ :=
    Entries.changes_foldlM_addSection (inRange_sections? hsections) hadd
  unfold statements
  rw [hsections, Option.getD_some, ← hplaces]
  exact ⟨hchanges, descends_sections? hsections⟩

/-- The entries of a document have different names and hold no integer of more than
sixty-four bits. -/
theorem Document.sound_of_parse : Entries.Sound document.entries := by
  have hnone : Entries.Sound [] := ⟨List.nodup_nil, by simp⟩
  exact hnone.changes (changes_of_parse h).1

/-- The statements are listed as they stand in the text, a smaller number of characters to
the end being further on. -/
theorem Document.pairwise_statements_of_parse :
    (statements text).Pairwise fun s later => later.key.span.start < s.key.span.start :=
  List.pairwise_map.mp (changes_of_parse h).2.pairwise

/-- The entries of a document have the names that stand at the top of its text. -/
theorem Document.covers_of_parse : Entries.Covers (topNames text) document.entries := by
  have hnone : Entries.Covers [] [] := by simp [Entries.Covers]
  exact hnone.changes (changes_of_parse h).1

/-- Where no header opens a table that a longer header has passed before, the entries come
in the order in which their names appear. -/
theorem Document.inOrder_of_noneReopens (hnone : Entries.NoneReopens (statements text)) :
    Entries.InOrder (topNames text) document.entries := by
  have hcovers : Entries.Covers [] [] := by simp [Entries.Covers]
  exact Entries.InOrder.changes List.Pairwise.nil hcovers (changes_of_parse h).1 (by simp) hnone

end

-- the table `a` is there from the first line on and counts from the third
example : (Document.parse "[a.b]\n[x]\n[a]\n".toList).map
    (fun document => document.entries.map fun entry => entry.key.name) = some ["x", "a"] := by
  decide +kernel

end Fibonacci.Toml
