/-
Files, directories and paths.

The program reads one file and writes one file, both named by texts that come from
outside. This file says what such a name means over a tree of files and directories,
and for which cause reading or writing fails: walking a path needs a directory at
every step, a name has at most 255 bytes, and a path that ends in a slash names a
directory. Two devices are part of the tree: one swallows everything and is always
empty, the other is always full.

Opening a file that is there, or making one, can be refused, for reading and for
writing apart, and the tree says for which places and why. Once a regular file is open,
reading it and writing it succeed; a text that is not encoded in UTF-8 is a failure of
reading.
-/
import Fibonacci.Text.Numeral
import Fibonacci.Text.Split

set_option autoImplicit false

namespace Fibonacci

/-! ## Failures -/

/-- The causes for which a file cannot be read or written. -/
inductive FileError where
  /-- Nothing is there. -/
  | notFound
  /-- A step of the path is no directory. -/
  | notDirectory
  /-- A directory is there. -/
  | isDirectory
  /-- The device takes nothing more. -/
  | noSpace
  /-- A name or the whole path has too many bytes. -/
  | nameTooLong
  /-- The content has no end. -/
  | outOfMemory
  /-- The path has a character that no path can have. -/
  | nulInPath
  /-- The content is no text. -/
  | notText
  /-- Any other cause that the system reports. -/
  | other (description : String)
  deriving DecidableEq, Repr

/-- A failure with the number that the system gives it. -/
def FileError.numbered (description : String) (code : Nat) : String :=
  description ++ " (os error " ++ Text.numeral code ++ ")"

/-- The text shown to the user. -/
def FileError.message : FileError → String
  | .notFound => numbered "No such file or directory" 2
  | .notDirectory => numbered "Not a directory" 20
  | .isDirectory => numbered "Is a directory" 21
  | .noSpace => numbered "No space left on device" 28
  | .nameTooLong => numbered "File name too long" 36
  | .outOfMemory => "out of memory"
  | .nulInPath => "file name contained an unexpected NUL byte"
  | .notText => "stream did not contain valid UTF-8"
  | .other description => description

/-! ## Paths -/

/-- The most bytes that a name between slashes can have. -/
def maxNameBytes : Nat := 255

/-- The most bytes that a path can have. -/
def maxPathBytes : Nat := 4095

/-- A path in its parts. -/
structure Path where
  /-- Whether it starts at the root. -/
  absolute : Bool
  /-- The names between slashes, empty ones left out. -/
  names : List String
  /-- Whether it ends in a slash. -/
  trailingSlash : Bool
  deriving DecidableEq, Repr

/-- Takes a path apart. -/
def Path.parse (text : String) : Except FileError Path :=
  if text.toList.contains '\x00' then .error .nulInPath
  else if text = "" then .error .notFound
  else if maxPathBytes < text.utf8ByteSize then .error .nameTooLong
  else .ok
    { absolute := text.toList.head? == some '/'
      names := ((Text.splitAt '/' text.toList).filter (· ≠ [])).map String.ofList
      trailingSlash := text.toList.getLast? == some '/' }

/-! ## The tree -/

/-- The names that lead from the root to a place. -/
abbrev Location := List String

section

/-- Contents are compared by their bytes. -/
local instance contentDecidableEq : DecidableEq ByteArray := ByteArray.decEq

/-- What can be at a place. -/
inductive Entry where
  /-- A regular file. -/
  | file (content : ByteArray)
  | directory
  /-- The device that swallows what is written and reads as empty. -/
  | sink
  /-- The device that takes nothing and has no end. -/
  | full
  deriving DecidableEq

end

/-- Places that the program cannot open, each with the cause. -/
abbrev Refusals := List (Location × FileError)

/-- Opens a place, unless it is refused. -/
def Refusals.check (refusals : Refusals) (place : Location) : Except FileError Unit :=
  match refusals.lookup place with
  | some cause => .error cause
  | none => .ok ()

/-- A tree of files and directories, with the directory where relative paths start.
The root is always there. -/
structure FileTree where
  /-- The places that are occupied. -/
  entries : List (Location × Entry)
  /-- Where relative paths start. -/
  workingDirectory : Location
  /-- What cannot be opened for reading. -/
  unreadable : Refusals := []
  /-- What cannot be opened, or made, for writing. -/
  unwritable : Refusals := []
  deriving DecidableEq

namespace FileTree

/-- What is at a place. -/
def lookup (t : FileTree) (place : Location) : Option Entry :=
  if place = [] then some .directory else t.entries.lookup place

/-- Puts something at a place, in the stead of what was there. -/
def insert (t : FileTree) (place : Location) (entry : Entry) : FileTree :=
  { t with entries := (place, entry) :: t.entries.filter fun e => e.1 ≠ place }

/-- One step of a walk. -/
def enter (t : FileTree) (place : Location) (name : String) : Except FileError Location :=
  if t.lookup place ≠ some .directory then .error .notDirectory
  else if name = "." then .ok place
  else if name = ".." then .ok place.dropLast
  else if maxNameBytes < name.utf8ByteSize then .error .nameTooLong
  else if (t.lookup (place ++ [name])).isNone then .error .notFound
  else .ok (place ++ [name])

/-- Walks along names. -/
def walk (t : FileTree) (start : Location) (names : List String) : Except FileError Location :=
  names.foldlM t.enter start

/-- Where a path starts. -/
def start (t : FileTree) (path : Path) : Location :=
  if path.absolute then [] else t.workingDirectory

/-- The place that a path names for reading. -/
def locate (t : FileTree) (path : Path) : Except FileError Location := do
  let place ← t.walk (t.start path) path.names
  if path.trailingSlash && t.lookup place ≠ some .directory then .error .notDirectory
  else .ok place

/-- The place that a path names for writing: its directory has to be there, it does
not. A path that can only name a directory is refused. -/
def locateNew (t : FileTree) (path : Path) : Except FileError Location :=
  match path.names.getLast? with
  | none => .error .isDirectory
  | some name => do
    let place ← t.walk (t.start path) path.names.dropLast
    if t.lookup place ≠ some .directory then .error .notDirectory
    else if name = "." || name = ".." || path.trailingSlash then .error .isDirectory
    else if maxNameBytes < name.utf8ByteSize then .error .nameTooLong
    else .ok (place ++ [name])

/-! ## Reading and writing -/

/-- The bytes of the file at a path. -/
def readBytes (t : FileTree) (path : String) : Except FileError ByteArray := do
  let place ← t.locate (← Path.parse path)
  t.unreadable.check place
  match t.lookup place with
  | some (.file content) => .ok content
  | some .sink => .ok ByteArray.empty
  | some .full => .error .outOfMemory
  | some .directory => .error .isDirectory
  | none => .error .notFound

/-- The text of the file at a path. -/
def readText (t : FileTree) (path : String) : Except FileError String := do
  match String.fromUTF8? (← t.readBytes path) with
  | some text => .ok text
  | none => .error .notText

/-- What a text that is written to an open place makes of the tree. -/
def store (t : FileTree) (place : Location) (text : String) : Except FileError FileTree :=
  match t.lookup place with
  | some .directory => .error .isDirectory
  | some .full => if text = "" then .ok t else .error .noSpace
  | some .sink => .ok t
  | _ => .ok (t.insert place (.file text.toUTF8))

/-- Makes a text the whole content of the file at a path, which need not exist. That a
directory is there is noticed before anything is refused. -/
def writeText (t : FileTree) (path : String) (text : String) : Except FileError FileTree := do
  let place ← t.locateNew (← Path.parse path)
  if t.lookup place ≠ some .directory then t.unwritable.check place
  t.store place text

/-! ## Trees to start from -/

/-- A tree with the two devices and an empty working directory. -/
def fresh : FileTree where
  entries :=
    [(["dev"], .directory), (["dev", "null"], .sink), (["dev", "full"], .full),
     (["work"], .directory)]
  workingDirectory := ["work"]

/-- The place of a name below the working directory. -/
def below (t : FileTree) (name : String) : Location :=
  t.workingDirectory ++ ((Text.splitAt '/' name.toList).filter (· ≠ [])).map String.ofList

/-- The places on the way to a place, from the root on. -/
def ancestors (place : Location) : List Location := (List.range place.length).map place.take

/-- Makes a directory at a place where nothing is. -/
def ensureDirectory (t : FileTree) (place : Location) : FileTree :=
  if (t.lookup place).isNone then t.insert place .directory else t

/-- Puts something below the working directory, with the directories that lead to it. -/
def put (t : FileTree) (name : String) (entry : Entry) : FileTree :=
  ((ancestors (t.below name)).foldl ensureDirectory t).insert (t.below name) entry

/-- The regular files below the working directory, with their names from there. -/
def files (t : FileTree) : List (String × ByteArray) :=
  t.entries.filterMap fun (place, entry) =>
    match entry with
    | .file content =>
      if t.workingDirectory.isPrefixOf place then
        some ("/".intercalate (place.drop t.workingDirectory.length), content)
      else none
    | _ => none

/-! ## What an insertion changes -/

theorem lookup_insert_self (t : FileTree) {place : Location} (h : place ≠ []) (entry : Entry) :
    (t.insert place entry).lookup place = some entry := by
  simp [lookup, insert, h]

theorem lookup_filter_ne (entries : List (Location × Entry)) {place other : Location}
    (h : other ≠ place) :
    (entries.filter fun e => e.1 ≠ place).lookup other = entries.lookup other := by
  induction entries with
  | nil => rfl
  | cons e rest ih =>
    obtain ⟨at_, entry⟩ := e
    by_cases hat : at_ = place
    · subst hat
      have hb : (other == at_) = false := by simp [h]
      simpa [List.lookup_cons, hb] using ih
    · by_cases ho : other = at_
      · subst ho
        simp [hat]
      · have hb : (other == at_) = false := by simp [ho]
        simpa [hat, List.lookup_cons, hb] using ih

/-- An insertion changes nothing at any other place. -/
theorem lookup_insert_of_ne (t : FileTree) {place other : Location} (entry : Entry)
    (h : other ≠ place) : (t.insert place entry).lookup other = t.lookup other := by
  have hb : (other == place) = false := by simp [h]
  have hf := lookup_filter_ne t.entries h
  unfold lookup insert
  simp only [List.lookup_cons, hb]
  rw [hf]

end FileTree
end Fibonacci
