/-
What a configuration file may hold.

For a text that is a document, the configuration hangs on its entries alone: it is there
if each of them has a known key and a value of the type that the key wants, and it then
has exactly the values of the entries, in whatever order they come. Otherwise the first
entry that does not fit is reported and nothing that comes after it is looked at.

Fitting is stated without the code that stores an entry; the lemmas about `addEntry`
join the two, and the run over the entries follows by induction.
-/
import Fibonacci.Proofs.ConfigText
import Fibonacci.Proofs.TomlEntries

set_option autoImplicit false

namespace Fibonacci.Config

/-! ## Entries that fit -/

/-- The key is known and the value has the type that the key wants. -/
def Fits (entry : Toml.Entry Toml.Node) : Prop :=
  (entry.key.name = "n" ∧ ∃ value, entry.node = .integer value)
    ∨ ((entry.key.name = "algorithm" ∨ entry.key.name = "report")
      ∧ ∃ text, entry.node = .string text)

/-- The keys, each with the type that it wants as reports call it. -/
def wanted : List (String × String) :=
  [("n", "i64"), ("algorithm", "a string"), ("report", "a string")]

/-- What is said of an entry that does not fit: the stretch that is shown, and the words. -/
inductive Offence (entry : Toml.Entry Toml.Node) : Toml.Span → String → Prop
  | unknownKey (hkey : entry.key.name ∉ wanted.map Prod.fst) :
      Offence entry entry.key.span
        ("unknown field `" ++ entry.key.name ++ "`, expected one of `n`, `algorithm`, `report`")
  | wrongType {expected : String} (hkey : (entry.key.name, expected) ∈ wanted) :
      Offence entry (entry.span.getD entry.key.span)
        ("invalid type: " ++ describe entry.node ++ ", expected " ++ expected)

/-- The values of a configuration are those of the entries. -/
structure Holds (c : Config) (entries : Toml.Entries) : Prop where
  n : ∀ value, c.n = some value
    ↔ ∃ entry ∈ entries, entry.key.name = "n" ∧ entry.node = .integer value.toInt
  algorithm : ∀ name, c.algorithm = some name
    ↔ ∃ entry ∈ entries, entry.key.name = "algorithm" ∧ entry.node = .string name
  report : ∀ text, c.report = some text
    ↔ ∃ entry ∈ entries, entry.key.name = "report" ∧ entry.node = .string text

/-- A name with its value, without their places. -/
def content (entry : Toml.Entry Toml.Node) : String × Toml.Node := (entry.key.name, entry.node)

/-! ## One entry -/

theorem toInt_ofInt_of_inRange {value : Int} (h : (Toml.Node.integer value).InRange) :
    (Int64.ofInt value).toInt = value := by
  obtain ⟨hleast, hmost⟩ := h
  unfold Toml.Number.minInteger at hleast
  unfold Toml.Number.maxInteger at hmost
  exact Int64.toInt_ofInt_of_le hleast (by omega)

/-- An entry fits if it is the entry of a setting. -/
theorem exists_isEntry_of_fits {entry : Toml.Entry Toml.Node} (hrange : entry.node.InRange)
    (h : Fits entry) : ∃ s : Setting, s.IsEntry entry := by
  rcases h with ⟨hkey, value, hnode⟩ | ⟨hkey | hkey, text, hnode⟩
  · rw [hnode] at hrange
    refine ⟨.n (Int64.ofInt value), hkey, ?_⟩
    change entry.node = .integer (Int64.ofInt value).toInt
    rw [hnode, toInt_ofInt_of_inRange hrange]
  · exact ⟨.algorithm text, hkey, hnode⟩
  · exact ⟨.report text, hkey, hnode⟩

/-- No entry is that of two settings. -/
theorem eq_of_isEntry {s t : Setting} {entry : Toml.Entry Toml.Node} (hs : s.IsEntry entry)
    (ht : t.IsEntry entry) : s = t := by
  have hkey : s.key = t.key := hs.1.symm.trans ht.1
  have hnode : s.node = t.node := hs.2.symm.trans ht.2
  rcases s with value | name | text <;> rcases t with value' | name' | text'
  case n.n => rw [Int64.toInt_inj.mp (Toml.Node.integer.inj hnode)]
  case algorithm.algorithm => rw [Toml.Node.string.inj hnode]
  case report.report => rw [Toml.Node.string.inj hnode]
  all_goals simp [Setting.key] at hkey

theorem integerOf_of_ne {entry : Toml.Entry Toml.Node}
    (h : ∀ value, entry.node ≠ .integer value) :
    integerOf entry = .error (misfit entry "i64") := by
  unfold integerOf
  split
  · next value hnode => exact absurd hnode (h value)
  · rfl

theorem textOf_of_ne {entry : Toml.Entry Toml.Node} (h : ∀ text, entry.node ≠ .string text) :
    textOf entry = .error (misfit entry "a string") := by
  unfold textOf
  split
  · next text hnode => exact absurd hnode (h text)
  · rfl

/-- An entry that does not fit is refused whatever came before it. -/
theorem addEntry_of_not_fits {entry : Toml.Entry Toml.Node} (h : ¬ Fits entry) :
    ∃ m : Misfit, Offence entry m.span m.fault.message ∧ ∀ c, addEntry c entry = .error m := by
  by_cases hn : entry.key.name = "n"
  · have hvalue : ∀ value, entry.node ≠ .integer value :=
      fun value hnode => h (.inl ⟨hn, value, hnode⟩)
    refine ⟨misfit entry "i64", .wrongType (by simp [wanted, hn]), fun c => ?_⟩
    rw [addEntry, if_pos hn, integerOf_of_ne hvalue]
    rfl
  by_cases ha : entry.key.name = "algorithm"
  · have hvalue : ∀ text, entry.node ≠ .string text :=
      fun text hnode => h (.inr ⟨.inl ha, text, hnode⟩)
    refine ⟨misfit entry "a string", .wrongType (by simp [wanted, ha]), fun c => ?_⟩
    rw [addEntry, if_neg hn, if_pos ha, textOf_of_ne hvalue]
    rfl
  by_cases hr : entry.key.name = "report"
  · have hvalue : ∀ text, entry.node ≠ .string text :=
      fun text hnode => h (.inr ⟨.inr hr, text, hnode⟩)
    refine ⟨misfit entry "a string", .wrongType (by simp [wanted, hr]), fun c => ?_⟩
    rw [addEntry, if_neg hn, if_neg ha, if_pos hr, textOf_of_ne hvalue]
    rfl
  · refine ⟨⟨entry.key.span, .unknownKey entry.key.name⟩, .unknownKey ?_, fun c => ?_⟩
    · simp [wanted, hn, ha, hr]
    · rw [addEntry, if_neg hn, if_neg ha, if_neg hr]

/-! ## All entries -/

theorem exists_forall₂_isEntry {entries : Toml.Entries}
    (hrange : ∀ entry ∈ entries, entry.node.InRange) (hfits : ∀ entry ∈ entries, Fits entry) :
    ∃ order, List.Forall₂ Setting.IsEntry order entries := by
  induction entries with
  | nil => exact ⟨[], .nil⟩
  | cons entry entries ih =>
    rw [List.forall_mem_cons] at hrange hfits
    obtain ⟨s, hs⟩ := exists_isEntry_of_fits hrange.1 hfits.1
    obtain ⟨order, horder⟩ := ih hrange.2 hfits.2
    exact ⟨s :: order, .cons hs horder⟩

/-- The first entry that does not fit decides. -/
theorem ofEntries_of_not_fits {before after : Toml.Entries} {entry : Toml.Entry Toml.Node}
    (hrange : ∀ entry ∈ before, entry.node.InRange) (hbefore : ∀ entry ∈ before, Fits entry)
    (hentry : ¬ Fits entry) :
    ∃ m : Misfit, Offence entry m.span m.fault.message
      ∧ ofEntries (before ++ entry :: after) = .error m := by
  obtain ⟨order, horder⟩ := exists_forall₂_isEntry hrange hbefore
  obtain ⟨m, hoffence, hm⟩ := addEntry_of_not_fits hentry
  refine ⟨m, hoffence, ?_⟩
  rw [ofEntries, List.foldlM_append, foldlM_addEntry horder]
  change List.foldlM addEntry _ (entry :: after) = _
  rw [List.foldlM_cons, hm]
  rfl

theorem exists_first_not_fits {entries : Toml.Entries} (h : ¬ ∀ entry ∈ entries, Fits entry) :
    ∃ before entry after, entries = before ++ entry :: after
      ∧ (∀ earlier ∈ before, Fits earlier) ∧ ¬ Fits entry := by
  induction entries with
  | nil => exact absurd (by simp) h
  | cons entry entries ih =>
    by_cases hentry : Fits entry
    · obtain ⟨before, bad, after, rfl, hbefore, hbad⟩ := ih fun hrest =>
        h (List.forall_mem_cons.mpr ⟨hentry, hrest⟩)
      exact ⟨entry :: before, bad, after, rfl, List.forall_mem_cons.mpr ⟨hentry, hbefore⟩, hbad⟩
    · exact ⟨[], entry, entries, rfl, by simp, hentry⟩

/-! ## The values that a configuration has -/

theorem mem_settings_store (s t : Setting) (c : Config) :
    t ∈ (s.store c).settings ↔ t = s ∨ (t.key ≠ s.key ∧ t ∈ c.settings) := by
  rcases c with ⟨n, algorithm, report⟩
  rcases s with value | name | text <;> rcases t with value' | name' | text' <;>
    simp [settings, Setting.store, Setting.key, eq_comm]

/-- Settings of different keys are all there in the end, beside those from the start that
have kept their value. -/
theorem mem_settings_foldl {order : List Setting} (hnodup : (order.map Setting.key).Nodup)
    (t : Setting) (c : Config) :
    t ∈ (order.foldl Setting.store c).settings
      ↔ t ∈ order ∨ (t.key ∉ order.map Setting.key ∧ t ∈ c.settings) := by
  induction order generalizing c with
  | nil => simp
  | cons s order ih =>
    rw [List.map_cons, List.nodup_cons] at hnodup
    rw [List.foldl_cons, ih hnodup.2, mem_settings_store, List.map_cons, List.mem_cons,
      List.mem_cons, not_or]
    constructor
    · rintro (hmem | ⟨hkey, rfl | ⟨hne, hc⟩⟩)
      · exact .inl (.inr hmem)
      · exact .inl (.inl rfl)
      · exact .inr ⟨⟨hne, hkey⟩, hc⟩
    · rintro ((rfl | hmem) | ⟨⟨hne, hkey⟩, hc⟩)
      · exact .inr ⟨hnodup.1, .inl rfl⟩
      · exact .inl hmem
      · exact .inr ⟨hkey, .inr ⟨hne, hc⟩⟩

theorem mem_iff_exists_isEntry {order : List Setting} {entries : Toml.Entries}
    (horder : List.Forall₂ Setting.IsEntry order entries) (s : Setting) :
    s ∈ order ↔ ∃ entry ∈ entries, s.IsEntry entry := by
  induction horder with
  | nil => simp
  | cons hhead _ ih =>
    rw [List.mem_cons, ih, List.exists_mem_cons_iff]
    refine or_congr_left ⟨fun heq => heq ▸ hhead, fun hs => eq_of_isEntry hs hhead⟩

theorem map_key_of_forall₂ {order : List Setting} {entries : Toml.Entries}
    (horder : List.Forall₂ Setting.IsEntry order entries) :
    order.map Setting.key = entries.map fun entry => entry.key.name := by
  induction horder with
  | nil => rfl
  | cons hhead _ ih => rw [List.map_cons, List.map_cons, ih, hhead.1]

/-- A configuration has the settings that have an entry, and no others. -/
theorem holds_of_mem_settings_iff {c : Config} {entries : Toml.Entries}
    (h : ∀ s, s ∈ c.settings ↔ ∃ entry ∈ entries, s.IsEntry entry) : Holds c entries where
  n value := by
    have hmem : Setting.n value ∈ c.settings ↔ c.n = some value := by simp [settings]
    rw [← hmem, h]
    rfl
  algorithm name := by
    have hmem : Setting.algorithm name ∈ c.settings ↔ c.algorithm = some name := by
      simp [settings]
    rw [← hmem, h]
    rfl
  report text := by
    have hmem : Setting.report text ∈ c.settings ↔ c.report = some text := by simp [settings]
    rw [← hmem, h]
    rfl

/-- Entries that all fit make a configuration, and it has their values. -/
theorem ofEntries_of_fits {entries : Toml.Entries} (hsound : Toml.Entries.Sound entries)
    (hfits : ∀ entry ∈ entries, Fits entry) :
    ∃ c, ofEntries entries = .ok c ∧ Holds c entries := by
  obtain ⟨order, horder⟩ := exists_forall₂_isEntry hsound.range hfits
  have hnodup : (order.map Setting.key).Nodup := by
    rw [map_key_of_forall₂ horder]
    exact hsound.names
  refine ⟨order.foldl Setting.store {}, foldlM_addEntry horder {}, ?_⟩
  apply holds_of_mem_settings_iff
  intro s
  rw [mem_settings_foldl hnodup, ← mem_iff_exists_isEntry horder]
  exact or_iff_left fun hempty => List.not_mem_nil hempty.2

/-- The values are all that there is to a configuration. -/
theorem Holds.eq {c c' : Config} {entries : Toml.Entries} (h : Holds c entries)
    (h' : Holds c' entries) : c = c' := by
  have hn : c.n = c'.n := Option.ext fun value => (h.n value).trans (h'.n value).symm
  have halgorithm : c.algorithm = c'.algorithm :=
    Option.ext fun name => (h.algorithm name).trans (h'.algorithm name).symm
  have hreport : c.report = c'.report :=
    Option.ext fun text => (h.report text).trans (h'.report text).symm
  rcases c with ⟨n, algorithm, report⟩
  rcases c' with ⟨n', algorithm', report'⟩
  dsimp only at hn halgorithm hreport
  rw [hn, halgorithm, hreport]

/-! ## The order of the entries -/

section Perm

variable {entries entries' : Toml.Entries}
  (hperm : (entries'.map content).Perm (entries.map content))
include hperm

theorem exists_entry_iff_of_perm (name : String) (node : Toml.Node) :
    (∃ entry ∈ entries, entry.key.name = name ∧ entry.node = node)
      ↔ ∃ entry ∈ entries', entry.key.name = name ∧ entry.node = node := by
  have hiff := hperm.mem_iff (a := (name, node))
  simpa [List.mem_map, content] using hiff.symm

theorem fits_of_perm (h : ∀ entry ∈ entries, Fits entry) : ∀ entry ∈ entries', Fits entry := by
  intro entry hentry
  obtain ⟨other, hother, hname, hnode⟩ :=
    (exists_entry_iff_of_perm hperm entry.key.name entry.node).mpr ⟨entry, hentry, rfl, rfl⟩
  have hfits := h other hother
  unfold Fits at hfits ⊢
  rwa [hname, hnode] at hfits

theorem Holds.of_perm {c : Config} (h : Holds c entries) : Holds c entries' where
  n value := (h.n value).trans (exists_entry_iff_of_perm hperm _ _)
  algorithm name := (h.algorithm name).trans (exists_entry_iff_of_perm hperm _ _)
  report text := (h.report text).trans (exists_entry_iff_of_perm hperm _ _)

end Perm

/-! ## A whole text -/

section Text

variable {text : String} {document : Toml.Document}
  (hdocument : Toml.Document.parse text.toList = some document)
include hdocument

theorem parse_of_fits (hfits : ∀ entry ∈ document.entries, Fits entry) :
    ∃ c, parse text = .ok c ∧ Holds c document.entries := by
  have hsound := Toml.Document.sound_of_parse hdocument
  obtain ⟨c, hc, hholds⟩ := ofEntries_of_fits hsound hfits
  refine ⟨c, ?_, hholds⟩
  unfold parse
  rw [hdocument]
  dsimp only
  rw [hc]

theorem parse_of_not_fits (hnot : ¬ ∀ entry ∈ document.entries, Fits entry) :
    ∃ before entry after, document.entries = before ++ entry :: after
      ∧ (∀ earlier ∈ before, Fits earlier) ∧ ¬ Fits entry
      ∧ ∃ span words cause, Offence entry span words ∧ parse text = .error cause
        ∧ ∀ grammarText, cause.message grammarText = "Failed to parse config: "
          ++ (Toml.Excerpt.of text.toList span).render words := by
  have hsound := Toml.Document.sound_of_parse hdocument
  obtain ⟨before, entry, after, hsplit, hbefore, hentry⟩ := exists_first_not_fits hnot
  have hrange : ∀ earlier ∈ before, earlier.node.InRange := fun earlier hearlier =>
    hsound.range earlier (by rw [hsplit]; exact List.mem_append_left _ hearlier)
  obtain ⟨m, hoffence, hm⟩ := ofEntries_of_not_fits hrange hbefore hentry
  refine ⟨before, entry, after, hsplit, hbefore, hentry, m.span, m.fault.message,
    .entry (Toml.Excerpt.of text.toList m.span) m.fault, hoffence, ?_, fun _ => rfl⟩
  unfold parse
  rw [hdocument]
  dsimp only
  rw [hsplit, hm]

theorem parse_ok_iff : (∃ c, parse text = .ok c) ↔ ∀ entry ∈ document.entries, Fits entry := by
  constructor
  · rintro ⟨c, hc⟩
    by_contra hnot
    obtain ⟨_, _, _, _, _, _, _, _, cause, _, herror, _⟩ := parse_of_not_fits hdocument hnot
    rw [hc] at herror
    cases herror
  · intro hfits
    obtain ⟨c, hc, -⟩ := parse_of_fits hdocument hfits
    exact ⟨c, hc⟩

theorem holds_of_parse {c : Config} (hc : parse text = .ok c) : Holds c document.entries := by
  obtain ⟨c', hc', hholds⟩ := parse_of_fits hdocument ((parse_ok_iff hdocument).mp ⟨c, hc⟩)
  rw [hc] at hc'
  obtain rfl := Except.ok.inj hc'
  exact hholds

end Text

/-- Of entries in the order of the text, the first that does not fit appears first. -/
theorem idxOf_lt_of_not_fits {names : List String} {before after : Toml.Entries}
    {entry : Toml.Entry Toml.Node}
    (inOrder : Toml.Entries.InOrder names (before ++ entry :: after))
    (hbefore : ∀ earlier ∈ before, Fits earlier) {other : Toml.Entry Toml.Node}
    (hother : other ∈ before ++ entry :: after) (hnot : ¬ Fits other) :
    other = entry ∨ names.idxOf entry.key.name < names.idxOf other.key.name := by
  rcases List.mem_append.mp hother with hmem | hmem
  · exact absurd (hbefore other hmem) hnot
  · rcases List.mem_cons.mp hmem with rfl | hmem
    · exact .inl rfl
    · have hafter := (List.pairwise_append.mp inOrder).2.1
      exact .inr ((List.pairwise_cons.mp hafter).1 other hmem)

/-- The entries of a document are the names that its statements have at the top, each once.
If all of them fit, their values make the configuration, and any other document with the
same names and values makes the same. If not, the report is about the first that does not
fit, as the entries come; and where they come in the order in which the names first appear
in the text, it is about the one that appears first, and none that appears later.

That they do come so is what is asked of a reader of documents. It holds wherever no header
opens a table that a longer header has made before it. After `[a.b]` a later `[a]` is where
the table `a` counts from. -/
theorem parse_decided_by_entries {text : String} {document : Toml.Document}
    (hdocument : Toml.Document.parse text.toList = some document) :
    (document.entries.map fun entry => entry.key.name).Nodup
    ∧ Toml.Entries.Covers (Toml.topNames text.toList) document.entries
    ∧ ((Toml.statements text.toList).Pairwise fun s later =>
        later.key.span.start < s.key.span.start)
    ∧ ((∃ c, parse text = .ok c) ↔ ∀ entry ∈ document.entries, Fits entry)
    ∧ (∀ c, parse text = .ok c → Holds c document.entries
        ∧ ∀ text' document', Toml.Document.parse text'.toList = some document'
          → (document'.entries.map content).Perm (document.entries.map content)
          → parse text' = .ok c)
    ∧ ((¬ ∀ entry ∈ document.entries, Fits entry) →
        ∃ before entry after, document.entries = before ++ entry :: after
          ∧ (∀ earlier ∈ before, Fits earlier) ∧ ¬ Fits entry
          ∧ (∃ span words cause, Offence entry span words ∧ parse text = .error cause
            ∧ ∀ grammarText, cause.message grammarText = "Failed to parse config: "
              ++ (Toml.Excerpt.of text.toList span).render words)
          ∧ (Toml.Entries.InOrder (Toml.topNames text.toList) document.entries →
            ∀ other ∈ document.entries, ¬ Fits other → other = entry
              ∨ (Toml.topNames text.toList).idxOf entry.key.name
                < (Toml.topNames text.toList).idxOf other.key.name))
    ∧ (Toml.Entries.NoneReopens (Toml.statements text.toList) →
        Toml.Entries.InOrder (Toml.topNames text.toList) document.entries) := by
  have hsound := Toml.Document.sound_of_parse hdocument
  refine ⟨hsound.names, Toml.Document.covers_of_parse hdocument,
    Toml.Document.pairwise_statements_of_parse hdocument, parse_ok_iff hdocument, ?_, ?_,
    Toml.Document.inOrder_of_noneReopens hdocument⟩
  · intro c hc
    have hholds := holds_of_parse hdocument hc
    refine ⟨hholds, ?_⟩
    intro text' document' hdocument' hperm
    -- both texts have a configuration that holds the same values, so it is the same one
    have hfits := fits_of_perm hperm ((parse_ok_iff hdocument).mp ⟨c, hc⟩)
    obtain ⟨c', hc', hholds'⟩ := parse_of_fits hdocument' hfits
    rw [hc', (hholds.of_perm hperm).eq hholds']
  · intro hnot
    obtain ⟨before, entry, after, hsplit, hbefore, hentry, hreport⟩ :=
      parse_of_not_fits hdocument hnot
    refine ⟨before, entry, after, hsplit, hbefore, hentry, hreport, ?_⟩
    rw [hsplit]
    intro inOrder other hother hnot'
    exact idxOf_lt_of_not_fits inOrder hbefore hother hnot'

/-- Two entries that do not fit, of which the second has an unknown key: the report is
about the first, which appears first. And a document whose entries have changed places. -/
theorem parse_earlier_misfit_and_reordered :
    (∃ cause, parse "n = 5\nreport = [7]\nfoo = 1\n" = .error cause
      ∧ ∀ grammarText, cause.message grammarText
        = "Failed to parse config: TOML parse error at line 2, column 10\n" ++
          "  |\n2 | report = [7]\n  |          ^^^\ninvalid type: sequence, expected a string\n")
    ∧ Toml.topNames "n = 5\nreport = [7]\nfoo = 1\n".toList = ["n", "report", "foo"]
    ∧ ((∃ c, parse "n = 5\nreport = 'json'\n" = .ok c)
      ∧ ∀ c, parse "n = 5\nreport = 'json'\n" = .ok c
        → c.algorithm = none ∧ parse "report = 'json'\nn = 5\n" = .ok c) := by
  have hrefused : Toml.Document.parse "n = 5\nreport = [7]\nfoo = 1\n".toList
      = some ⟨[⟨⟨"n", ⟨27, 26⟩⟩, some ⟨23, 22⟩, .integer 5⟩,
        ⟨⟨"report", ⟨21, 15⟩⟩, some ⟨12, 9⟩, .array [.integer 7]⟩,
        ⟨⟨"foo", ⟨8, 5⟩⟩, some ⟨2, 1⟩, .integer 1⟩]⟩ := by
    rfl
  have hordered : Toml.Document.parse "n = 5\nreport = 'json'\n".toList
      = some ⟨[⟨⟨"n", ⟨22, 21⟩⟩, some ⟨18, 17⟩, .integer 5⟩,
        ⟨⟨"report", ⟨16, 10⟩⟩, some ⟨7, 1⟩, .string "json"⟩]⟩ := by
    rfl
  have hreordered : Toml.Document.parse "report = 'json'\nn = 5\n".toList
      = some ⟨[⟨⟨"report", ⟨22, 16⟩⟩, some ⟨13, 7⟩, .string "json"⟩,
        ⟨⟨"n", ⟨6, 5⟩⟩, some ⟨2, 1⟩, .integer 5⟩]⟩ := by
    rfl
  have hnames : Toml.topNames "n = 5\nreport = [7]\nfoo = 1\n".toList = ["n", "report", "foo"] := by
    rfl
  refine ⟨?_, hnames, ?_⟩
  · obtain ⟨-, -, -, -, -, hfirst, hinOrder⟩ := parse_decided_by_entries hrefused
    have hnone : Toml.Entries.NoneReopens
        (Toml.statements "n = 5\nreport = [7]\nfoo = 1\n".toList) := by
      unfold Toml.Entries.NoneReopens
      decide +kernel
    obtain ⟨before, entry, after, hsplit, -, hentry, ⟨span, words, cause, hoffence, hcause,
      hmessage⟩, hearliest⟩ := hfirst (by simp [Fits])
    refine ⟨cause, hcause, ?_⟩
    -- the array under `report` does not fit, so the report is about it or what is before it
    have hreport := hearliest (hinOrder hnone) _ (List.mem_cons_of_mem _ List.mem_cons_self)
      (by simp [Fits])
    rw [hnames] at hreport
    have hmem : entry ∈ before ++ entry :: after := by simp
    rw [← hsplit] at hmem
    simp only [List.mem_cons, List.not_mem_nil, or_false] at hmem
    rcases hmem with rfl | rfl | rfl
    · exact absurd (.inl ⟨rfl, 5, rfl⟩) hentry
    · rcases hoffence with hkey | hkey
      · exact absurd (by decide) hkey
      · next expected =>
        obtain rfl : expected = "a string" := by simpa [wanted] using hkey
        intro grammarText
        rw [hmessage]
        decide +kernel
    · rcases hreport with heq | hlt
      · exact absurd (congrArg (·.key.name) heq) (by decide)
      · exact absurd hlt (by decide)
  · obtain ⟨-, -, -, hok, hvalues, -, -⟩ := parse_decided_by_entries hordered
    refine ⟨hok.mpr (by simp [Fits]), ?_⟩
    intro c hc
    obtain ⟨hholds, hother⟩ := hvalues c hc
    refine ⟨?_, hother _ _ hreordered (.swap _ _ _)⟩
    rw [Option.eq_none_iff_forall_ne_some]
    intro name hname
    simpa using (hholds.algorithm name).mp hname

end Fibonacci.Config
