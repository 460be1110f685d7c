import ComponentDocs.Files.Path
import ComponentDocs.Text.Blank

/-!
# File trees

The files and directories of a file system, and the working directory.  A location is the list of
names that leads to an entry from the root.  A path starts at the root or in the working directory
and is followed piece by piece, and every piece but the last has to lead to a directory.  There are
no links, and everything may be read and written.

That no two entries have one location and that each stands in a directory is part of the type, so
the operations that add an entry ask for the evidence that it can stand there.
-/

namespace ComponentDocs

/-- Why a file cannot be read, created or written. -/
inductive FileError where
  | notFound
  | alreadyExists
  | notDirectory
  | isDirectory
  /-- The file is not UTF-8. -/
  | notText
  deriving DecidableEq

def FileError.message : FileError → String
  | .notFound => "No such file or directory (os error 2)"
  | .alreadyExists => "File exists (os error 17)"
  | .notDirectory => "Not a directory (os error 20)"
  | .isDirectory => "Is a directory (os error 21)"
  | .notText => "stream did not contain valid UTF-8"

abbrev Location := List String

namespace Location

/-- The root is a directory, and the listed locations are. -/
def isDirectory (directories : List Location) (location : Location) : Bool :=
  location.isEmpty || directories.contains location

/-- The location is a name in a directory. -/
def isPlace (directories : List Location) (location : Location) : Bool :=
  location.getLast?.any Path.isName && isDirectory directories location.dropLast

theorem isDirectory_eq_true_iff {directories : List Location} {location : Location} :
    isDirectory directories location = true ↔ location = [] ∨ location ∈ directories := by
  simp [isDirectory]

theorem isDirectory_append {directories : List Location} {location : Location}
    (h : isDirectory directories location = true) (more : List Location) :
    isDirectory (directories ++ more) location = true := by
  rw [isDirectory_eq_true_iff] at h ⊢
  exact h.imp_right (List.mem_append_left more)

theorem isPlace_append {directories : List Location} {location : Location}
    (h : isPlace directories location = true) (more : List Location) :
    isPlace (directories ++ more) location = true := by
  rw [isPlace, Bool.and_eq_true] at h ⊢
  exact ⟨h.1, isDirectory_append h.2 more⟩

end Location

@[ext]
structure FileTree where
  files : List (Location × ByteArray)
  /-- All directories but the root. -/
  directories : List Location
  /-- Where a path starts that does not start at the root. -/
  workdir : Location
  /-- No entry is listed twice, and no file is a directory. -/
  nodup : (files.map Prod.fst ++ directories).Nodup
  /-- Each entry is a name in a directory. -/
  isPlace_of_mem : ∀ location ∈ files.map Prod.fst ++ directories,
    location.isPlace directories = true
  isDirectory_workdir : workdir.isDirectory directories = true

namespace FileTree

/-- Trees are compared by their directories and by their files, byte by byte. -/
def decEq (a b : FileTree) : Decidable (a = b) :=
  letI : DecidableEq ByteArray := ByteArray.instDecidableEq
  if h : a.files = b.files ∧ a.directories = b.directories ∧ a.workdir = b.workdir then
    .isTrue (FileTree.ext h.1 h.2.1 h.2.2)
  else .isFalse fun e => h (e ▸ ⟨rfl, rfl, rfl⟩)

instance : DecidableEq FileTree :=
  decEq

/-- Nothing but the root. -/
def root : FileTree :=
  ⟨[], [], [], by decide, by decide, by decide⟩

/-- Nothing but a working directory below the root. -/
def empty : FileTree :=
  ⟨[], [["work"]], ["work"], by decide, by decide, by decide⟩

def hasFile (tree : FileTree) (location : Location) : Bool :=
  tree.files.any fun file => file.1 == location

def hasDirectory (tree : FileTree) (location : Location) : Bool :=
  location.isDirectory tree.directories

def hasEntry (tree : FileTree) (location : Location) : Bool :=
  tree.hasFile location || tree.hasDirectory location

/-- The location is a name in a directory, whether or not there is an entry. -/
def isPlace (tree : FileTree) (location : Location) : Bool :=
  location.isPlace tree.directories

/-! ## Paths -/

/-- Follows the pieces of a path from a location.  The root is above itself. -/
def follow (tree : FileTree) (location : Location) : List String → Except FileError Location
  | [] => .ok location
  | piece :: rest =>
    if tree.hasDirectory location then
      if piece = "" ∨ piece = "." then tree.follow location rest
      else if piece = ".." then tree.follow location.dropLast rest
      else
        let next := location ++ [piece]
        if tree.hasEntry next then tree.follow next rest else .error .notFound
    else .error .notDirectory

/-- Where a path starts: at the root if its first piece is empty. -/
def start (tree : FileTree) (pieces : List String) : Location :=
  if pieces.head? = some "" then [] else tree.workdir

/-- The entry that the pieces of a path lead to. -/
def resolve (tree : FileTree) (pieces : List String) : Except FileError Location :=
  tree.follow (tree.start pieces) pieces

/-- The entry that a path leads to.  The empty path leads nowhere. -/
def locate (tree : FileTree) (path : String) : Except FileError Location :=
  if path = "" then .error .notFound else tree.resolve (Path.pieces path)

def isFile (tree : FileTree) (path : String) : Bool :=
  match tree.locate path with
  | .ok location => tree.hasFile location
  | .error _ => false

def isDirectory (tree : FileTree) (path : String) : Bool :=
  match tree.locate path with
  | .ok location => tree.hasDirectory location
  | .error _ => false

def contains (tree : FileTree) (path : String) : Bool :=
  (tree.locate path).isOk

/-- A path to a location, from the working directory if it is below it. -/
def pathTo (tree : FileTree) (location : Location) : String :=
  if tree.workdir.isPrefixOf location then Path.ofPieces (location.drop tree.workdir.length)
  else Path.ofPieces ("" :: location)

/-- The tree with the working directory at a path, if there is a directory. -/
def enter (tree : FileTree) (path : String) : FileTree :=
  match tree.locate path with
  | .ok location =>
    if h : tree.hasDirectory location = true then
      { tree with workdir := location, isDirectory_workdir := h }
    else tree
  | .error _ => tree

/-! ## Contents -/

/-- The text of a file. -/
def readText (tree : FileTree) (path : String) : Except FileError String := do
  let location ← tree.locate path
  match tree.files.lookup location with
  | none => .error .isDirectory
  | some bytes =>
    match String.fromUTF8? bytes with
    | none => .error .notText
    | some text => .ok text

/-- The names in a directory. -/
def names (tree : FileTree) (location : Location) : List String :=
  ((tree.files.map Prod.fst ++ tree.directories).filter fun entry =>
    entry.dropLast == location).filterMap List.getLast?

/-- A directory and all directories below it, as the names that lead to them from there. -/
def directoriesFrom (tree : FileTree) (location : Location) : List Location :=
  [] :: (tree.directories.filter fun directory =>
    location.isPrefixOf directory && directory != location).map (·.drop location.length)

/-! ## Changes -/

/-- The files with the bytes of one of them set. -/
def setBytes (files : List (Location × ByteArray)) (location : Location) (bytes : ByteArray) :
    List (Location × ByteArray) :=
  files.filter (fun file => file.1 != location) ++ [(location, bytes)]

theorem mem_map_fst_setBytes {files : List (Location × ByteArray)} {location other : Location}
    {bytes : ByteArray} :
    other ∈ (setBytes files location bytes).map Prod.fst ↔
      other ∈ files.map Prod.fst ∧ other ≠ location ∨ other = location := by
  have hfilter : (files.filter fun file => file.1 != location).map Prod.fst =
      (files.map Prod.fst).filter (· != location) := by
    rw [List.filter_map]
    rfl
  rw [setBytes, List.map_append, hfilter, List.mem_append, List.mem_filter]
  simp

theorem nodup_setBytes {files : List (Location × ByteArray)} {directories : List Location}
    {location : Location} (hnodup : (files.map Prod.fst ++ directories).Nodup)
    (hlocation : location ∉ directories) (bytes : ByteArray) :
    ((setBytes files location bytes).map Prod.fst ++ directories).Nodup := by
  obtain ⟨hfiles, hdirectories, hdisjoint⟩ := List.nodup_append.1 hnodup
  refine List.nodup_append.2 ⟨?_, hdirectories, ?_⟩
  · rw [setBytes, List.map_append, List.nodup_append]
    refine ⟨hfiles.sublist (List.filter_sublist.map _), by simp, ?_⟩
    intro other hother last hlast
    obtain ⟨file, hfile, rfl⟩ := List.mem_map.1 hother
    rw [List.map_singleton, List.mem_singleton] at hlast
    simpa [hlast] using (List.mem_filter.1 hfile).2
  · intro other hother directory hdirectory
    rcases mem_map_fst_setBytes.1 hother with ⟨hold, -⟩ | rfl
    · exact hdisjoint other hold directory hdirectory
    · rintro rfl
      exact hlocation hdirectory

/-- Sets the bytes of a file. -/
def setFile (tree : FileTree) (location : Location) (bytes : ByteArray)
    (hplace : tree.isPlace location = true) (hfree : tree.hasDirectory location = false) :
    FileTree where
  files := setBytes tree.files location bytes
  directories := tree.directories
  workdir := tree.workdir
  nodup := by
    refine nodup_setBytes tree.nodup (fun hmem => ?_) bytes
    rw [hasDirectory, Location.isDirectory_eq_true_iff.2 (.inr hmem)] at hfree
    cases hfree
  isPlace_of_mem := by
    intro other hother
    rcases List.mem_append.1 hother with hfile | hdirectory
    · rcases mem_map_fst_setBytes.1 hfile with ⟨hold, -⟩ | rfl
      · exact tree.isPlace_of_mem other (List.mem_append_left _ hold)
      · exact hplace
    · exact tree.isPlace_of_mem other (List.mem_append_right _ hdirectory)
  isDirectory_workdir := tree.isDirectory_workdir

theorem notMem_of_hasEntry_eq_false {tree : FileTree} {location : Location}
    (h : tree.hasEntry location = false) :
    location ∉ tree.files.map Prod.fst ∧ location ∉ tree.directories := by
  rw [hasEntry, Bool.or_eq_false_iff] at h
  refine ⟨fun hmem => ?_, fun hmem => ?_⟩
  · obtain ⟨file, hfile, rfl⟩ := List.mem_map.1 hmem
    rw [hasFile, List.any_eq_true.2 ⟨file, hfile, beq_self_eq_true file.1⟩] at h
    cases h.1
  · rw [hasDirectory, Location.isDirectory_eq_true_iff.2 (.inr hmem)] at h
    cases h.2

def addDirectory (tree : FileTree) (location : Location)
    (hplace : tree.isPlace location = true) (hfree : tree.hasEntry location = false) :
    FileTree where
  files := tree.files
  directories := tree.directories ++ [location]
  workdir := tree.workdir
  nodup := by
    obtain ⟨hfiles, hdirectories⟩ := notMem_of_hasEntry_eq_false hfree
    rw [← List.append_assoc]
    refine List.nodup_append.2 ⟨tree.nodup, by simp, ?_⟩
    intro other hother last hlast
    rw [List.mem_singleton] at hlast
    rintro rfl
    rw [hlast, List.mem_append] at hother
    exact hother.elim hfiles hdirectories
  isPlace_of_mem := by
    intro other hother
    rw [← List.append_assoc, List.mem_append, List.mem_singleton] at hother
    rcases hother with hold | rfl
    · exact Location.isPlace_append (tree.isPlace_of_mem other hold) _
    · exact Location.isPlace_append hplace _
  isDirectory_workdir := Location.isDirectory_append tree.isDirectory_workdir _

/-- The location that the pieces of a path name, in a directory that exists. -/
def target (tree : FileTree) (pieces : List String) : Except FileError Location := do
  let directory ← tree.resolve pieces.dropLast
  if tree.hasDirectory directory then .ok (directory ++ pieces.getLast?.toList)
  else .error .notDirectory

/-- Creates one directory, in a directory that exists. -/
def makeDirectory (tree : FileTree) (pieces : List String) : Except FileError FileTree := do
  let location ← tree.target (Path.dropIdlePieces pieces)
  if h : tree.isPlace location = true ∧ tree.hasEntry location = false then
    .ok (tree.addDirectory location h.1 h.2)
  else .error .alreadyExists

/-- Creates one directory unless it is there already. -/
def ensureDirectory (tree : FileTree) (pieces : List String) : Except FileError FileTree :=
  match tree.makeDirectory pieces with
  | .ok made => .ok made
  | .error e =>
    match tree.resolve pieces with
    | .ok location => if tree.hasDirectory location then .ok tree else .error e
    | .error _ => .error e

/-- An operation leaves the tree as it was when it fails. -/
def attempt (tree : FileTree) : Except FileError FileTree → FileTree × Option FileError
  | .ok later => (later, none)
  | .error e => (tree, some e)

/-- Creates a directory, and those above it if it has no directory to stand in.  What was created
before a failure stays. -/
def ensureDirectories (tree : FileTree) (pieces : List String) : FileTree × Option FileError :=
  if _hpieces : pieces = [] then (tree, none)
  else
    match tree.ensureDirectory pieces with
    | .error .notFound =>
      match tree.ensureDirectories (Path.parentPieces pieces) with
      | (above, none) => above.attempt (above.ensureDirectory pieces)
      | failed => failed
    | result => tree.attempt result
termination_by pieces.length
decreasing_by exact Path.length_parentPieces_lt _hpieces

/-- Creates or replaces a file in a directory that exists.  A slash at the end asks for a
directory. -/
def writeFile (tree : FileTree) (path : String) (bytes : ByteArray) :
    Except FileError FileTree :=
  if path = "" then .error .notFound
  else do
    let location ← tree.target
      (Path.pieces (String.ofList (Text.dropEndWhile (· == '/') path.toList)))
    if path.toList.getLast? = some '/' then .error .isDirectory
    else if h : tree.isPlace location = true ∧ tree.hasDirectory location = false then
      .ok (tree.setFile location bytes h.1 h.2)
    else .error .isDirectory

/-- The files of `after` that are new or differ from `before`. -/
def changes (before after : FileTree) : List (String × ByteArray) :=
  letI : DecidableEq ByteArray := ByteArray.instDecidableEq
  (after.files.filter fun file => before.files.lookup file.1 ≠ some file.2).map fun file =>
    (after.pathTo file.1, file.2)

/-- Adds a directory and all those above it. -/
def withDirectory (tree : FileTree) (path : String) : FileTree :=
  (tree.ensureDirectories (Path.pieces path)).1

/-- Adds a file and all directories above it. -/
def withFile (tree : FileTree) (path : String) (bytes : ByteArray) : FileTree :=
  let above := (tree.ensureDirectories (Path.parentPieces (Path.pieces path))).1
  (above.attempt (above.writeFile path bytes)).1

end FileTree

end ComponentDocs
