/-
What writing a file does to a tree.

A path names at most one place of a tree to write to (`Names`). Writing there either
leaves the tree as it is, which is what the device that swallows everything does, or
puts the text at that place; every other place, the working directory and what is
refused stay. A write that fails gives no tree at all.

Finding a place looks at directories and at what is there, never into a file. So a tree
that gains a file is still walked along every path that could be walked before
(`Gains`): what was read at another place is read there again, and a write that succeeded
succeeds a second time and changes nothing more (`writeText_again`). And two trees that
differ in the content of one file take a write in the same way: it fails in both for the
same cause, or it succeeds in both (`writeText_of_differIn`).

At a regular place, one with a file or with nothing, a write succeeds unless the place
cannot be opened, and the path then reads as the text that was written, whatever was there
before (`readText_insert`).
-/
import Fibonacci.FileTree

set_option autoImplicit false

namespace Fibonacci.FileTree

/-- A path names a place to write to: its directory is there and it can name a file. -/
def Names (t : FileTree) (path : String) (place : Location) : Prop :=
  ∃ parts, Path.parse path = .ok parts ∧ t.locateNew parts = .ok place

theorem check_eq_ok_iff {refusals : Refusals} {place : Location} :
    refusals.check place = .ok () ↔ refusals.lookup place = none := by
  unfold Refusals.check
  split
  · next h => simp [h]
  · next h => simp [h]

/-- A write whose path names a place comes to what is made of the place. -/
theorem writeText_of_names {t : FileTree} {path : String} {place : Location}
    (named : t.Names path place) (text : String) :
    t.writeText path text
      = if t.lookup place ≠ some .directory then
          t.unwritable.check place >>= fun _ => t.store place text
        else .error .isDirectory := by
  obtain ⟨parts, hparse, hplace⟩ := named
  unfold writeText
  rw [hparse]
  simp only [hplace, bind, Except.bind]
  by_cases hdirectory : t.lookup place ≠ some .directory
  · rw [if_pos hdirectory, if_pos hdirectory]
  · rw [if_neg hdirectory, if_neg hdirectory, store,
      Decidable.not_not.mp hdirectory]

/-- A write that succeeds has a place, and could open it. -/
theorem exists_names_of_writeText {t after : FileTree} {path text : String}
    (h : t.writeText path text = .ok after) :
    ∃ place, t.Names path place ∧ t.lookup place ≠ some .directory
      ∧ t.unwritable.lookup place = none ∧ t.store place text = .ok after := by
  rcases hparse : Path.parse path with cause | parts
  · rw [writeText, hparse] at h
    cases h
  · rcases hplace : t.locateNew parts with cause | place
    · rw [writeText, hparse] at h
      simp only [hplace, bind, Except.bind] at h
      cases h
    · have named : t.Names path place := ⟨parts, hparse, hplace⟩
      rw [writeText_of_names named] at h
      split at h
      · next hfree =>
        rcases hopens : t.unwritable.check place with cause | _
        · rw [hopens] at h
          cases h
        · rw [hopens] at h
          exact ⟨place, named, hfree, check_eq_ok_iff.mp hopens, h⟩
      · cases h

/-- A text goes to a device, which changes nothing, or becomes the file at its place. -/
theorem store_cases {t after : FileTree} {place : Location} {text : String}
    (h : t.store place text = .ok after) :
    after = t ∨ t.lookup place ≠ some .directory
      ∧ after = t.insert place (.file text.toUTF8) := by
  unfold store at h
  -- by what is at the place: a directory, the device that is full, the device that
  -- swallows, and last a file or nothing
  split at h
  · cases h
  · split at h
    · cases h
      exact .inl rfl
    · cases h
  · cases h
    exact .inl rfl
  · next hdirectory _ _ =>
    cases h
    exact .inr ⟨hdirectory, rfl⟩

/-- The one place where a write can change the tree, and what it can change there. -/
theorem writeText_cases {t after : FileTree} {path text : String}
    (h : t.writeText path text = .ok after) :
    ∃ place, t.Names path place
      ∧ (after = t ∨ t.lookup place ≠ some .directory
        ∧ after = t.insert place (.file text.toUTF8)) := by
  obtain ⟨place, named, -, -, hstore⟩ := exists_names_of_writeText h
  exact ⟨place, named, store_cases hstore⟩

/-- A write changes nothing at a place that its path does not name. -/
theorem lookup_writeText_of_not_names {t after : FileTree} {path text : String}
    {place : Location} (h : t.writeText path text = .ok after)
    (hplace : ¬ t.Names path place) : after.lookup place = t.lookup place := by
  obtain ⟨named, hnamed, rfl | ⟨-, rfl⟩⟩ := writeText_cases h
  · rfl
  · have hne : place ≠ named := by
      rintro rfl
      exact hplace hnamed
    exact lookup_insert_of_ne t _ hne

theorem workingDirectory_writeText {t after : FileTree} {path text : String}
    (h : t.writeText path text = .ok after) :
    after.workingDirectory = t.workingDirectory := by
  obtain ⟨named, -, rfl | ⟨-, rfl⟩⟩ := writeText_cases h
  · rfl
  · rfl

/-- A place to write to is a name in a directory, and the path has led to the directory. -/
theorem exists_of_locateNew {t : FileTree} {path : Path} {place : Location}
    (h : t.locateNew path = .ok place) :
    ∃ directory name, path.names.getLast? = some name
      ∧ t.walk (t.start path) path.names.dropLast = .ok directory
      ∧ t.lookup directory = some .directory ∧ name ≠ "." ∧ name ≠ ".."
      ∧ path.trailingSlash = false ∧ name.utf8ByteSize ≤ maxNameBytes
      ∧ place = directory ++ [name] := by
  unfold locateNew at h
  rcases hname : path.names.getLast? with _ | name
  · rw [hname] at h
    cases h
  · rcases hwalk : t.walk (t.start path) path.names.dropLast with cause | directory
    · rw [hname, hwalk] at h
      cases h
    · simp only [hname, hwalk, bind, Except.bind] at h
      split at h
      · cases h
      · rename_i hdirectory
        split at h
        · cases h
        · rename_i hplain
          split at h
          · cases h
          · rename_i hlength
            simp only [Bool.or_eq_true, decide_eq_true_eq, not_or, Bool.not_eq_true] at hplain
            obtain ⟨⟨hdot, hup⟩, hslash⟩ := hplain
            exact ⟨directory, name, rfl, rfl, Decidable.not_not.mp hdirectory, hdot, hup, hslash,
              Nat.le_of_not_lt hlength, (Except.ok.inj h).symm⟩

theorem ne_nil_of_locateNew {t : FileTree} {path : Path} {place : Location}
    (h : t.locateNew path = .ok place) : place ≠ [] := by
  obtain ⟨directory, name, -, -, -, -, -, -, -, rfl⟩ := exists_of_locateNew h
  exact List.append_ne_nil_of_right_ne_nil _ (List.cons_ne_nil _ _)

/-! ## Trees that gain a file -/

/-- A path names a place to read from. -/
def Finds (t : FileTree) (path : String) (place : Location) : Prop :=
  ∃ parts, Path.parse path = .ok parts ∧ t.locate parts = .ok place

theorem Names.unique {t : FileTree} {path : String} {place other : Location}
    (h : t.Names path place) (h' : t.Names path other) : place = other := by
  obtain ⟨parts, hparse, hplace⟩ := h
  obtain ⟨parts', hparse', hother⟩ := h'
  obtain rfl := Except.ok.inj (hparse.symm.trans hparse')
  exact Except.ok.inj (hplace.symm.trans hother)

theorem Names.ne_nil {t : FileTree} {path : String} {place : Location}
    (h : t.Names path place) : place ≠ [] := by
  obtain ⟨parts, -, hplace⟩ := h
  exact ne_nil_of_locateNew hplace

theorem Finds.unique {t : FileTree} {path : String} {place other : Location}
    (h : t.Finds path place) (h' : t.Finds path other) : place = other := by
  obtain ⟨parts, hparse, hplace⟩ := h
  obtain ⟨parts', hparse', hother⟩ := h'
  obtain rfl := Except.ok.inj (hparse.symm.trans hparse')
  exact Except.ok.inj (hplace.symm.trans hother)

/-- The second tree has a file at the place, where the first has no directory, and they
are the same everywhere else. -/
structure Gains (t t' : FileTree) (place : Location) : Prop where
  workingDirectory : t'.workingDirectory = t.workingDirectory
  unreadable : t'.unreadable = t.unreadable
  elsewhere : ∀ other, other ≠ place → t'.lookup other = t.lookup other
  free : t.lookup place ≠ some .directory
  isFile : ∃ content, t'.lookup place = some (.file content)

theorem gains_insert {t : FileTree} {place : Location} (hplace : place ≠ [])
    (free : t.lookup place ≠ some .directory) (content : ByteArray) :
    Gains t (t.insert place (.file content)) place where
  workingDirectory := rfl
  unreadable := rfl
  elsewhere _ hother := lookup_insert_of_ne t _ hother
  free := free
  isFile := ⟨content, lookup_insert_self t hplace _⟩

/-- When a step of a walk can be made, and where it leads. -/
theorem enter_eq_ok_iff {t : FileTree} {at_ next : Location} {name : String} :
    t.enter at_ name = .ok next
      ↔ t.lookup at_ = some .directory
        ∧ (name = "." ∧ next = at_
          ∨ name = ".." ∧ next = at_.dropLast
          ∨ name ≠ "." ∧ name ≠ ".." ∧ name.utf8ByteSize ≤ maxNameBytes
            ∧ (t.lookup (at_ ++ [name])).isNone = false ∧ next = at_ ++ [name]) := by
  unfold enter
  grind

theorem walk_cons (t : FileTree) (start : Location) (name : String) (names : List String) :
    t.walk start (name :: names) = t.enter start name >>= fun next => t.walk next names :=
  List.foldlM_cons

section
variable {t t' : FileTree} {place : Location} (h : Gains t t' place)
include h

theorem Gains.directory_iff (other : Location) :
    t'.lookup other = some .directory ↔ t.lookup other = some .directory := by
  by_cases hother : other = place
  · obtain ⟨content, hfile⟩ := h.isFile
    rw [hother, hfile]
    simp [h.free]
  · rw [h.elsewhere other hother]

theorem Gains.isNone_lookup {other : Location} (hsome : (t.lookup other).isNone = false) :
    (t'.lookup other).isNone = false := by
  by_cases hother : other = place
  · obtain ⟨content, hfile⟩ := h.isFile
    rw [hother, hfile]
    rfl
  · rw [h.elsewhere other hother]
    exact hsome

/-- A step that could be made can still be made: no directory is lost, and nothing else
that was there. -/
theorem Gains.enter_eq_ok {at_ next : Location} {name : String}
    (hok : t.enter at_ name = .ok next) : t'.enter at_ name = .ok next := by
  rw [enter_eq_ok_iff] at hok ⊢
  obtain ⟨hdirectory, hnext⟩ := hok
  refine ⟨(h.directory_iff at_).mpr hdirectory, ?_⟩
  rcases hnext with hdot | hup | ⟨hdot, hup, hlength, hsome, hnext⟩
  · exact .inl hdot
  · exact .inr (.inl hup)
  · exact .inr (.inr ⟨hdot, hup, hlength, h.isNone_lookup hsome, hnext⟩)

theorem Gains.walk_eq_ok {start found : Location} {names : List String}
    (hok : t.walk start names = .ok found) : t'.walk start names = .ok found := by
  induction names generalizing start with
  | nil => exact hok
  | cons name names ih =>
    rw [walk_cons] at hok ⊢
    rcases hnext : t.enter start name with cause | next
    · rw [hnext] at hok
      cases hok
    · rw [hnext] at hok
      rw [h.enter_eq_ok hnext]
      exact ih hok

theorem Gains.start_eq (path : Path) : t'.start path = t.start path := by
  rw [start, start, h.workingDirectory]

theorem Gains.locate_eq_ok {path : Path} {found : Location}
    (hok : t.locate path = .ok found) : t'.locate path = .ok found := by
  unfold locate at hok ⊢
  rcases hwalk : t.walk (t.start path) path.names with cause | place
  · rw [hwalk] at hok
    cases hok
  · rw [hwalk] at hok
    rw [h.start_eq, h.walk_eq_ok hwalk]
    simpa only [ne_eq, h.directory_iff] using hok

theorem Gains.locateNew_eq_ok {path : Path} {found : Location}
    (hok : t.locateNew path = .ok found) : t'.locateNew path = .ok found := by
  unfold locateNew at hok ⊢
  rcases hname : path.names.getLast? with _ | name
  · rw [hname] at hok
    cases hok
  · rcases hwalk : t.walk (t.start path) path.names.dropLast with cause | place
    · rw [hname, hwalk] at hok
      cases hok
    · rw [hname, hwalk] at hok
      rw [h.start_eq, h.walk_eq_ok hwalk]
      simpa only [ne_eq, h.directory_iff] using hok

/-- What was read at another place is read there again. -/
theorem Gains.readText_eq_ok {path text : String} (hapart : ¬ t.Finds path place)
    (hok : t.readText path = .ok text) : t'.readText path = .ok text := by
  unfold readText readBytes at hok ⊢
  rcases hparse : Path.parse path with cause | parts
  · rw [hparse] at hok
    cases hok
  · rcases hfound : t.locate parts with cause | found
    · rw [hparse] at hok
      simp only [hfound, bind, Except.bind] at hok
      cases hok
    · have hne : found ≠ place := by
        rintro rfl
        exact hapart ⟨parts, hparse, hfound⟩
      rw [hparse] at hok
      simp only [hfound, bind, Except.bind] at hok
      simp only [h.locate_eq_ok hfound, h.elsewhere found hne, h.unreadable, bind, Except.bind]
      exact hok

end

theorem insert_insert_self (t : FileTree) (place : Location) (entry : Entry) :
    (t.insert place entry).insert place entry = t.insert place entry := by
  simp [insert]

/-- A write that succeeded succeeds again and leaves the tree as it is. -/
theorem writeText_again {t after : FileTree} {path text : String}
    (h : t.writeText path text = .ok after) : after.writeText path text = .ok after := by
  obtain ⟨place, ⟨parts, hparse, hplace⟩, free, hopens, hstore⟩ := exists_names_of_writeText h
  rcases store_cases hstore with rfl | ⟨-, rfl⟩
  · exact h
  · have hne := ne_nil_of_locateNew hplace
    have hgains := gains_insert hne free text.toUTF8
    have hself := lookup_insert_self t hne (.file text.toUTF8)
    have hagain : (t.insert place (.file text.toUTF8)).unwritable.check place = .ok () :=
      check_eq_ok_iff.mpr hopens
    rw [writeText_of_names ⟨parts, hparse, hgains.locateNew_eq_ok hplace⟩, hself,
      if_pos (by nofun), hagain]
    change store _ place text = _
    rw [store, hself]
    exact congrArg Except.ok (insert_insert_self t place _)

/-! ## Regular files -/

/-- A place with a regular file, or with nothing, where a regular file can be made. -/
def Regular (t : FileTree) (place : Location) : Prop :=
  t.lookup place = none ∨ ∃ content, t.lookup place = some (.file content)

theorem Regular.ne_directory {t : FileTree} {place : Location} (h : t.Regular place) :
    t.lookup place ≠ some .directory := by
  rcases h with hnone | ⟨content, hfile⟩
  · rw [hnone]
    nofun
  · rw [hfile]
    nofun

theorem store_of_regular {t : FileTree} {place : Location} (h : t.Regular place)
    (text : String) : t.store place text = .ok (t.insert place (.file text.toUTF8)) := by
  unfold store
  rcases h with hnone | ⟨content, hfile⟩
  · rw [hnone]
  · rw [hfile]

section
variable {t : FileTree} {path : String} {place : Location} (named : t.Names path place)
include named

/-- A write to a regular file fails only if the file cannot be opened. -/
theorem lookup_unwritable_of_refused {text : String} {cause : FileError}
    (regular : t.Regular place) (h : t.writeText path text = .error cause) :
    t.unwritable.lookup place = some cause := by
  rw [writeText_of_names named, if_pos regular.ne_directory] at h
  rcases hlookup : t.unwritable.lookup place with _ | cause'
  · rw [check_eq_ok_iff.mpr hlookup] at h
    change t.store place text = .error cause at h
    rw [store_of_regular regular] at h
    cases h
  · have hopens : t.unwritable.check place = .error cause' := by
      rw [Refusals.check, hlookup]
    rw [hopens] at h
    obtain rfl := Except.error.inj h
    rfl

/-- A write to a regular file that can be opened leaves the text, and nothing else, there. -/
theorem eq_insert_of_writeText {after : FileTree} {text : String} (regular : t.Regular place)
    (h : t.writeText path text = .ok after) : after = t.insert place (.file text.toUTF8) := by
  obtain ⟨other, named', -, -, hstore⟩ := exists_names_of_writeText h
  rw [← named.unique named', store_of_regular regular] at hstore
  exact (Except.ok.inj hstore).symm

/-- Elsewhere a write that succeeds has gone to a device, and leaves the tree alone. -/
theorem eq_of_writeText_of_not_regular {after : FileTree} {text : String}
    (device : ¬ t.Regular place) (h : t.writeText path text = .ok after) : after = t := by
  obtain ⟨other, named', -, -, hstore⟩ := exists_names_of_writeText h
  rw [← named.unique named'] at hstore
  unfold store at hstore
  rcases hentry : t.lookup place with _ | (content | _ | _ | _)
  · exact absurd (.inl hentry) device
  · exact absurd (.inr ⟨content, hentry⟩) device
  · rw [hentry] at hstore
    cases hstore
  · rw [hentry] at hstore
    exact (Except.ok.inj hstore).symm
  · rw [hentry] at hstore
    dsimp only at hstore
    split at hstore
    · exact (Except.ok.inj hstore).symm
    · cases hstore

end

/-- A place to write to is also the place to read from, once something is there. -/
theorem locate_of_locateNew {t : FileTree} {path : Path} {place : Location}
    (h : t.locateNew path = .ok place) (there : (t.lookup place).isNone = false) :
    t.locate path = .ok place := by
  obtain ⟨directory, name, hname, hwalk, hdirectory, hdot, hup, hslash, hlength, rfl⟩ :=
    exists_of_locateNew h
  have henter : t.enter directory name = .ok (directory ++ [name]) :=
    enter_eq_ok_iff.mpr ⟨hdirectory, .inr (.inr ⟨hdot, hup, hlength, there, rfl⟩)⟩
  obtain ⟨names, hnames⟩ := List.getLast?_eq_some_iff.mp hname
  have hall : t.walk (t.start path) path.names = .ok (directory ++ [name]) := by
    rw [hnames, List.dropLast_concat] at hwalk
    rw [hnames, walk, List.foldlM_append, ← walk, hwalk]
    change t.walk directory [name] = _
    rw [walk_cons, henter]
    rfl
  unfold locate
  rw [hall, hslash]
  rfl

theorem fromUTF8?_toUTF8 (text : String) : String.fromUTF8? text.toUTF8 = some text :=
  dif_pos text.isValidUTF8

/-- What has been written to a regular file is read back from it, where it can be opened for
reading too. -/
theorem readText_insert {t : FileTree} {path : String} {place : Location}
    (named : t.Names path place) (regular : t.Regular place)
    (readable : t.unreadable.lookup place = none) (text : String) :
    (t.insert place (.file text.toUTF8)).readText path = .ok text := by
  obtain ⟨parts, hparse, hplace⟩ := named
  have hne := ne_nil_of_locateNew hplace
  have hnew := (gains_insert hne regular.ne_directory text.toUTF8).locateNew_eq_ok hplace
  have hself := lookup_insert_self t hne (.file text.toUTF8)
  have hopens : (t.insert place (.file text.toUTF8)).unreadable.check place = .ok () :=
    check_eq_ok_iff.mpr readable
  unfold readText readBytes
  rw [hparse]
  simp only [locate_of_locateNew hnew (by rw [hself]; rfl), hself, hopens, bind, Except.bind,
    fromUTF8?_toUTF8]

/-! ## Trees that differ in the content of one file -/

/-- Both trees have a file at the place, and they are the same everywhere else. -/
structure DifferIn (t t' : FileTree) (place : Location) : Prop where
  workingDirectory : t'.workingDirectory = t.workingDirectory
  unreadable : t'.unreadable = t.unreadable
  unwritable : t'.unwritable = t.unwritable
  elsewhere : ∀ other, other ≠ place → t'.lookup other = t.lookup other
  isFile : ∃ content content', t.lookup place = some (.file content)
    ∧ t'.lookup place = some (.file content')

/-- What a write leaves of two trees: they still differ at most where they did, and there
only if the write has touched neither file. -/
structure LeavesDiffer (t t' after after' : FileTree) (place : Location) : Prop where
  elsewhere : ∀ other, other ≠ place → after'.lookup other = after.lookup other
  there : after'.lookup place = after.lookup place
    ∨ after.lookup place = t.lookup place ∧ after'.lookup place = t'.lookup place

section
variable {t t' : FileTree} {place : Location} (h : DifferIn t t' place)
include h

theorem DifferIn.gains : Gains t t' place := by
  obtain ⟨content, content', hfile, hfile'⟩ := h.isFile
  refine ⟨h.workingDirectory, h.unreadable, h.elsewhere, ?_, content', hfile'⟩
  rw [hfile]
  nofun

theorem DifferIn.isNone_lookup (other : Location) :
    (t'.lookup other).isNone = (t.lookup other).isNone := by
  by_cases hother : other = place
  · obtain ⟨content, content', hfile, hfile'⟩ := h.isFile
    rw [hother, hfile, hfile']
    rfl
  · rw [h.elsewhere other hother]

theorem DifferIn.enter_eq : t'.enter = t.enter := by
  funext at_ name
  unfold enter
  simp only [ne_eq, h.gains.directory_iff, h.isNone_lookup]

theorem DifferIn.locateNew_eq (path : Path) : t'.locateNew path = t.locateNew path := by
  have hwalk : t'.walk (t'.start path) path.names.dropLast
      = t.walk (t.start path) path.names.dropLast := by
    rw [h.gains.start_eq, walk, walk, h.enter_eq]
  unfold locateNew
  rw [hwalk]
  simp only [ne_eq, h.gains.directory_iff]

theorem DifferIn.leavesDiffer : LeavesDiffer t t' t t' place :=
  ⟨h.elsewhere, .inr ⟨rfl, rfl⟩⟩

theorem DifferIn.leavesDiffer_insert {named : Location} (hnamed : named ≠ []) (entry : Entry) :
    LeavesDiffer t t' (t.insert named entry) (t'.insert named entry) place := by
  have hself : ∀ {s : FileTree}, (s.insert named entry).lookup named = some entry :=
    fun {s} => lookup_insert_self s hnamed entry
  constructor
  · intro other hother
    by_cases heq : other = named
    · rw [heq, hself, hself]
    · rw [lookup_insert_of_ne _ _ heq, lookup_insert_of_ne _ _ heq, h.elsewhere other hother]
  · by_cases heq : place = named
    · rw [heq, hself, hself]
      exact .inl rfl
    · rw [lookup_insert_of_ne _ _ heq, lookup_insert_of_ne _ _ heq]
      exact .inr ⟨rfl, rfl⟩

theorem DifferIn.names_iff (path : String) (named : Location) :
    t'.Names path named ↔ t.Names path named := by
  unfold Names
  simp only [h.locateNew_eq]

/-- What is made of a place is refused in both trees or in neither. -/
theorem store_of_differIn {named : Location} (hne : named ≠ []) (text : String) :
    (∃ cause, t.store named text = .error cause ∧ t'.store named text = .error cause)
    ∨ ∃ after after', t.store named text = .ok after ∧ t'.store named text = .ok after'
      ∧ LeavesDiffer t t' after after' place := by
  unfold store
  by_cases heq : named = place
  · -- the text goes to the file in which the trees differ
    obtain ⟨content, content', hfile, hfile'⟩ := h.isFile
    rw [heq] at hne ⊢
    rw [hfile, hfile']
    exact .inr ⟨_, _, rfl, rfl, h.leavesDiffer_insert hne _⟩
  · rw [h.elsewhere named heq]
    rcases t.lookup named with _ | (content | _ | _ | _)
    · exact .inr ⟨_, _, rfl, rfl, h.leavesDiffer_insert hne _⟩
    · exact .inr ⟨_, _, rfl, rfl, h.leavesDiffer_insert hne _⟩
    · exact .inl ⟨_, rfl, rfl⟩
    · exact .inr ⟨_, _, rfl, rfl, h.leavesDiffer⟩
    · by_cases hempty : text = ""
      · simp only [if_pos hempty]
        exact .inr ⟨_, _, rfl, rfl, h.leavesDiffer⟩
      · simp only [if_neg hempty]
        exact .inl ⟨_, rfl, rfl⟩

/-- A write fails in both trees for the same cause or succeeds in both. -/
theorem writeText_of_differIn (path text : String) :
    (∃ cause, t.writeText path text = .error cause ∧ t'.writeText path text = .error cause)
    ∨ ∃ after after', t.writeText path text = .ok after ∧ t'.writeText path text = .ok after'
      ∧ LeavesDiffer t t' after after' place := by
  rcases hparse : Path.parse path with cause | parts
  · refine .inl ⟨cause, ?_, ?_⟩
    · rw [writeText, hparse]
      rfl
    · rw [writeText, hparse]
      rfl
  · rcases hnamed : t.locateNew parts with cause | named
    · refine .inl ⟨cause, ?_, ?_⟩
      · simp only [writeText, hparse, hnamed, bind, Except.bind]
      · simp only [writeText, hparse, h.locateNew_eq, hnamed, bind, Except.bind]
    · have names : t.Names path named := ⟨parts, hparse, hnamed⟩
      rw [writeText_of_names names, writeText_of_names ((h.names_iff path named).mpr names),
        h.unwritable]
      simp only [ne_eq, h.gains.directory_iff]
      split
      · rcases t.unwritable.check named with cause | _
        · exact .inl ⟨cause, rfl, rfl⟩
        · exact store_of_differIn h (ne_nil_of_locateNew hnamed) text
      · exact .inl ⟨_, rfl, rfl⟩

end

end Fibonacci.FileTree
