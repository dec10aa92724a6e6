/-
Every configuration has a text.

A configuration is written with one line for each key that it has, in any order, and
reading the text gives the configuration back. So no index, however far out of range,
and no text, whatever it holds, is out of reach of a configuration file.

The argument follows the two stages of reading. Line by line the text becomes the pairs
of the document, and these become its entries because no name comes twice. Entry by
entry the configuration is put together, and since each entry sets a field of its own,
the order of the lines does not matter.
-/
import Fibonacci.Config
import Fibonacci.Proofs.TomlLine
import Mathlib.Data.List.Nodup

set_option autoImplicit false

namespace Fibonacci.Config

/-! ## Writing -/

/-- A key that a configuration has, with its value. -/
inductive Setting where
  | n (value : Int64)
  | algorithm (name : String)
  | report (text : String)
  deriving DecidableEq, Repr

namespace Setting

def key : Setting → String
  | .n _ => "n"
  | .algorithm _ => "algorithm"
  | .report _ => "report"

/-- The value as it is written, with hexadecimal digits of either case. -/
def written (upper : Bool) : Setting → List Char
  | .n value => Text.signedDigits value.toInt
  | .algorithm name => Toml.writeText upper name.toList
  | .report text => Toml.writeText upper text.toList

/-- The line of a document that says so. -/
def line (upper : Bool) (s : Setting) : List Char :=
  s.key.toList ++ ' ' :: '=' :: ' ' :: (s.written upper ++ ['\n'])

/-- The value as a document holds it. -/
def node : Setting → Toml.Node
  | .n value => .integer value.toInt
  | .algorithm name => .string name
  | .report text => .string text

/-- Sets the key in a configuration. -/
def store (c : Config) : Setting → Config
  | .n value => { c with n := some value }
  | .algorithm name => { c with algorithm := some name }
  | .report text => { c with report := some text }

end Setting

/-- The keys that a configuration has. -/
def settings (c : Config) : List Setting :=
  (c.n.map .n).toList ++ (c.algorithm.map .algorithm).toList ++ (c.report.map .report).toList

/-- The text of a document with one line for each key. -/
def write (upper : Bool) (order : List Setting) : String :=
  String.ofList (order.flatMap (Setting.line upper))

example : write true [.report "C:\\a\n", .n (-7)] = "report = \"C:\\\\a\\u000A\"\nn = -7\n" := by
  decide +kernel

/-! ## From lines to pairs -/

/-- A machine integer is in the range of the integers of a document. -/
theorem inRange?_toInt (value : Int64) :
    Toml.Number.inRange? value.toInt = some value.toInt := by
  have hleast := Int64.le_toInt value
  have hmost := Int64.toInt_lt value
  unfold Toml.Number.inRange? Toml.Number.minInteger Toml.Number.maxInteger
  rw [if_pos (by constructor <;> omega)]

theorem reads_written (upper : Bool) (s : Setting) :
    Toml.Reads (s.written upper) s.node := by
  rcases s with value | name | text
  · exact Toml.reads_signedDigits (inRange?_toInt value)
  · exact Toml.reads_writeText upper name
  · exact Toml.reads_writeText upper text

/-- The pair that the line of a setting becomes, wherever in the document it stands. -/
def Setting.IsPair (s : Setting) (pair : Toml.Pair) : Prop :=
  ∃ keySpan span, pair = ⟨[⟨s.key, keySpan⟩], s.node, span⟩

theorem bare_key (s : Setting) :
    ∃ c name, s.key.toList = c :: name ∧ ∀ d ∈ c :: name, Toml.isBare d = true := by
  have hn : "n".toList = ['n'] := by decide
  have halgorithm : "algorithm".toList = 'a' :: "lgorithm".toList := by decide
  have hreport : "report".toList = 'r' :: "eport".toList := by decide
  rcases s with value | name | text
  · exact ⟨'n', [], hn, List.all_eq_true.mp (by decide)⟩
  · exact ⟨'a', _, halgorithm, List.all_eq_true.mp (by decide)⟩
  · exact ⟨'r', _, hreport, List.all_eq_true.mp (by decide)⟩

theorem lineRound_line (upper : Bool) (s : Setting) (rest : List Char) :
    ∃ pair, s.IsPair pair
      ∧ Toml.lineRound (s.line upper ++ rest) = some (.more (some pair) rest) := by
  obtain ⟨c, name, hkey, hbare⟩ := bare_key s
  obtain ⟨keySpan, span, hround⟩ :=
    Toml.lineRound_binding hbare (reads_written upper s) rest
  have hname : String.ofList (c :: name) = s.key := by
    rw [← hkey, String.ofList_toList]
  rw [hname] at hround
  refine ⟨_, ⟨keySpan, span, rfl⟩, ?_⟩
  rw [← hround, Setting.line, hkey]
  simp only [List.append_assoc, List.cons_append, List.nil_append]

/-- The lines are read one after the other up to the end of the text. -/
theorem collect_flatMap_line (upper : Bool) (order : List Setting) :
    ∃ pairs, List.Forall₂ Setting.IsPair order pairs
      ∧ Toml.collect Toml.lineRound (order.flatMap (Setting.line upper))
          = some (pairs.map some, []) := by
  induction order with
  | nil => exact ⟨[], .nil, Toml.collect_of_done rfl⟩
  | cons s order ih =>
    obtain ⟨pairs, hpairs, hcollect⟩ := ih
    obtain ⟨pair, hpair, hround⟩ :=
      lineRound_line upper s (order.flatMap (Setting.line upper))
    have hshorter : (order.flatMap (Setting.line upper)).length
        < (s.line upper ++ order.flatMap (Setting.line upper)).length := by
      rw [List.length_append, Setting.line, List.length_append, List.length_cons]
      omega
    refine ⟨pair :: pairs, .cons hpair hpairs, ?_⟩
    rw [List.flatMap_cons, Toml.collect_of_more hround hshorter hcollect, List.map_cons]

/-! ## From pairs to entries -/

/-- The entry that the pair of a setting becomes. -/
def Setting.IsEntry (s : Setting) (entry : Toml.Entry Toml.Node) : Prop :=
  entry.key.name = s.key ∧ entry.node = s.node

theorem find?_eq_none {entries : Toml.Entries} {name : String}
    (hnew : ∀ entry ∈ entries, entry.key.name ≠ name) : entries.find? name = none := by
  rw [Toml.Entries.find?, List.find?_eq_none]
  intro entry hentry
  simp [hnew entry hentry]

/-- Pairs whose names are new and all different are added in their order. -/
theorem placeAll_of_nodup {order : List Setting} {pairs : List Toml.Pair}
    (hpairs : List.Forall₂ Setting.IsPair order pairs) (hnodup : (order.map Setting.key).Nodup)
    (entries : Toml.Entries)
    (hnew : ∀ entry ∈ entries, ∀ s ∈ order, entry.key.name ≠ s.key) :
    ∃ added, List.Forall₂ Setting.IsEntry order added
      ∧ Toml.Entries.placeAll pairs entries = some (entries ++ added) := by
  induction hpairs generalizing entries with
  | nil => exact ⟨[], .nil, by rw [List.append_nil]; rfl⟩
  | @cons s pair order pairs hpair hpairs ih =>
    obtain ⟨keySpan, span, rfl⟩ := hpair
    rw [List.map_cons, List.nodup_cons] at hnodup
    have hplace : Toml.Entries.place span s.node [⟨s.key, keySpan⟩] entries
        = some (entries ++ [⟨⟨s.key, keySpan⟩, some span, s.node⟩]) := by
      rw [Toml.Entries.place, find?_eq_none fun entry hentry =>
        hnew entry hentry s List.mem_cons_self]
      rfl
    obtain ⟨added, hadded, hrest⟩ := ih hnodup.2
      (entries ++ [⟨⟨s.key, keySpan⟩, some span, s.node⟩]) (by
        intro entry hentry t ht
        rcases List.mem_append.1 hentry with hold | hentry
        · exact hnew entry hold t (List.mem_cons_of_mem _ ht)
        · rw [List.mem_singleton.1 hentry]
          rintro heq
          exact hnodup.1 (List.mem_map.2 ⟨t, ht, heq.symm⟩))
    refine ⟨⟨⟨s.key, keySpan⟩, some span, s.node⟩ :: added, .cons ⟨rfl, rfl⟩ hadded, ?_⟩
    rw [Toml.Entries.placeAll] at hrest ⊢
    rw [List.foldlM_cons, hplace]
    dsimp only [Option.bind_eq_bind, Option.bind_some]
    rw [hrest, List.append_assoc]
    rfl

/-- Written settings with different keys are a document with an entry for each. -/
theorem parse_flatMap_line (upper : Bool) {order : List Setting}
    (hnodup : (order.map Setting.key).Nodup) :
    ∃ entries, List.Forall₂ Setting.IsEntry order entries
      ∧ Toml.Document.parse (order.flatMap (Setting.line upper)) = some ⟨entries⟩ := by
  have hmark : Toml.skipMark (order.flatMap (Setting.line upper))
      = order.flatMap (Setting.line upper) := by
    rcases order with _ | ⟨s, order⟩
    · rfl
    · obtain ⟨c, name, hkey, hbare⟩ := bare_key s
      have hc : c ≠ '\uFEFF' :=
        Text.ne_of_class (hbare c List.mem_cons_self) (by decide)
      rw [List.flatMap_cons, Setting.line, hkey, List.cons_append, List.cons_append]
      unfold Toml.skipMark
      split
      · rename_i heq
        exact absurd (List.cons.inj heq).1 hc
      · rfl
  obtain ⟨pairs, hpairs, hcollect⟩ := collect_flatMap_line upper order
  obtain ⟨entries, hentries, hplace⟩ :=
    placeAll_of_nodup hpairs hnodup [] (by intro entry hentry; cases hentry)
  have hend : Toml.collect Toml.sectionRound [] = some ([], []) := Toml.collect_of_done rfl
  have hsections : Toml.sections? (order.flatMap (Setting.line upper))
      = some [⟨none, pairs⟩] := by
    rw [Toml.sections?, hmark, Toml.pairs?, hcollect]
    dsimp only [Option.map_some, Option.bind_eq_bind, Option.bind_some]
    rw [hend, List.filterMap_map]
    simp
  refine ⟨entries, hentries, ?_⟩
  rw [Toml.Document.parse, hsections]
  dsimp only [Option.bind_eq_bind, Option.bind_some]
  rw [List.foldlM_cons, Toml.Entries.addSection, hplace]
  rfl

/-! ## From entries to the configuration -/

theorem addEntry_of_isEntry {s : Setting} {entry : Toml.Entry Toml.Node}
    (hentry : s.IsEntry entry) (c : Config) : addEntry c entry = .ok (s.store c) := by
  obtain ⟨hname, hnode⟩ := hentry
  rcases s with value | name | text
  · have hvalue : integerOf entry = .ok value := by
      rw [integerOf, hnode]
      exact congrArg Except.ok (Int64.ofInt_toInt value)
    rw [addEntry, hvalue, if_pos (show entry.key.name = "n" from hname)]
    rfl
  · have hvalue : textOf entry = .ok name := by
      rw [textOf, hnode]
      rfl
    change entry.key.name = "algorithm" at hname
    rw [addEntry, hname, hvalue, if_neg (by decide), if_pos rfl]
    rfl
  · have hvalue : textOf entry = .ok text := by
      rw [textOf, hnode]
      rfl
    change entry.key.name = "report" at hname
    rw [addEntry, hname, hvalue, if_neg (by decide), if_neg (by decide), if_pos rfl]
    rfl

theorem foldlM_addEntry {order : List Setting} {entries : Toml.Entries}
    (hentries : List.Forall₂ Setting.IsEntry order entries) (c : Config) :
    entries.foldlM addEntry c = .ok (order.foldl Setting.store c) := by
  induction hentries generalizing c with
  | nil => rfl
  | cons hentry _ ih =>
    rw [List.foldlM_cons, addEntry_of_isEntry hentry]
    exact ih _

/-- Each key has a field of its own, so settings of different keys can change places. -/
theorem store_comm {s t : Setting} (hne : s.key ≠ t.key) (c : Config) :
    t.store (s.store c) = s.store (t.store c) := by
  rcases s with _ | _ | _ <;> rcases t with _ | _ | _ <;> first | rfl | exact absurd rfl hne

theorem foldl_store_settings (c : Config) : c.settings.foldl Setting.store {} = c := by
  rcases c with ⟨_ | _, _ | _, _ | _⟩ <;> rfl

theorem nodup_settings (c : Config) : (c.settings.map Setting.key).Nodup := by
  have hkeys : (c.settings.map Setting.key).Sublist ["n", "algorithm", "report"] := by
    rcases c with ⟨_ | _, _ | _, _ | _⟩ <;> simp [settings, Setting.key]
  exact hkeys.nodup (by decide)

/-- Whatever a configuration holds and in whatever order its keys are written, reading
the text gives it back. -/
theorem parse_write (upper : Bool) (c : Config) (order : List Setting)
    (horder : order.Perm c.settings) : parse (write upper order) = .ok c := by
  have hnodup : (order.map Setting.key).Nodup :=
    (horder.map Setting.key).nodup_iff.2 (nodup_settings c)
  have hstore : order.foldl Setting.store {} = c := by
    rw [horder.foldl_eq', foldl_store_settings]
    intro s hs t ht d
    by_cases heq : s = t
    · rw [heq]
    · exact store_comm (fun hkey => heq (List.inj_on_of_nodup_map hnodup hs ht hkey)) d
  obtain ⟨entries, hentries, hparse⟩ := parse_flatMap_line upper hnodup
  have hconfig : ofEntries entries = .ok c := by
    rw [ofEntries, foldlM_addEntry hentries, hstore]
  unfold parse write
  rw [String.toList_ofList, hparse]
  dsimp only
  rw [hconfig]

/-- The least index that a file can hold, and texts of nothing but characters that have
to be escaped, with the keys in the order opposite to the usual one. -/
theorem parse_write_extreme :
    parse (write false [.report "\"\\\n", .algorithm "\x00\x7f", .n Int64.minValue])
      = .ok ⟨some Int64.minValue, some "\x00\x7f", some "\"\\\n"⟩ :=
  parse_write false ⟨some Int64.minValue, some "\x00\x7f", some "\"\\\n"⟩ _ (by decide)

end Fibonacci.Config
