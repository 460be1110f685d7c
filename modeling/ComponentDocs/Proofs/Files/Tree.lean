import ComponentDocs.Files.Glob
import ComponentDocs.Proofs.Declaration.Equations
import ComponentDocs.Proofs.Text.Lines
import ComponentDocs.Proofs.Text.Trim
import Mathlib.Data.List.Basic

/-!
# What is done to a file tree

A path leads to an entry that is there (`hasEntry_of_locate`), and each entry is reached from the
root by its names (`follow_eq_ok_of_hasEntry`).  A path that leads somewhere leads there also when
there are more entries (`follow_mono`).  Creating directories leaves all else as it is
(`growsTo_ensureDirectories`), and writing a file sets the bytes at one location
(`writeFile_eq_ok_iff`), which the path leads to afterwards (`WritesTo.locate_setFile`).  Where
paths lead depends on the entries only and not on the bytes in the files, so all of this commutes
with changing those (`mapFiles`).
-/

namespace ComponentDocs

namespace FileTree

variable {tree later : FileTree} {location : Location}

/-! ## Entries -/

theorem hasFile_eq_true_iff : tree.hasFile location = true ↔ location ∈ tree.files.map Prod.fst := by
  simp [hasFile]

theorem hasDirectory_eq_true_iff :
    tree.hasDirectory location = true ↔ location = [] ∨ location ∈ tree.directories :=
  Location.isDirectory_eq_true_iff

theorem hasDirectory_root (tree : FileTree) : tree.hasDirectory [] = true :=
  hasDirectory_eq_true_iff.2 (.inl rfl)

theorem hasEntry_eq_true_iff :
    tree.hasEntry location = true ↔
      location = [] ∨ location ∈ tree.files.map Prod.fst ++ tree.directories := by
  rw [hasEntry, Bool.or_eq_true, hasFile_eq_true_iff, hasDirectory_eq_true_iff, List.mem_append]
  tauto

/-- A location ends in the name of an entry in a directory. -/
theorem isPlace_eq_true_iff :
    tree.isPlace location = true ↔ ∃ directory name, location = directory ++ [name] ∧
      Path.isName name = true ∧ tree.hasDirectory directory = true := by
  rw [isPlace, Location.isPlace, Bool.and_eq_true, Option.any_eq_true]
  constructor
  · rintro ⟨⟨name, hlast, hname⟩, hdirectory⟩
    exact ⟨_, name, (List.dropLast_append_getLast? name hlast).symm, hname, hdirectory⟩
  · rintro ⟨directory, name, rfl, hname, hdirectory⟩
    exact ⟨⟨name, by simp, hname⟩, by rwa [List.dropLast_concat]⟩

theorem isPlace_of_hasEntry (h : tree.hasEntry location = true) (hroot : location ≠ []) :
    tree.isPlace location = true :=
  tree.isPlace_of_mem location ((hasEntry_eq_true_iff.1 h).resolve_left hroot)

theorem hasDirectory_eq_false_of_hasFile (h : tree.hasFile location = true) :
    tree.hasDirectory location = false := by
  have hmem := hasFile_eq_true_iff.1 h
  rw [← Bool.not_eq_true, hasDirectory_eq_true_iff, not_or]
  refine ⟨?_, fun hdirectory => ?_⟩
  · rintro rfl
    have hplace := tree.isPlace_of_mem [] (List.mem_append_left _ hmem)
    cases hplace
  · exact (List.nodup_append.1 tree.nodup).2.2 location hmem location hdirectory rfl

/-- What stands above an entry is a directory. -/
theorem hasDirectory_dropLast (h : tree.hasEntry location = true) :
    tree.hasDirectory location.dropLast = true := by
  by_cases hroot : location = []
  · rw [hroot]
    exact tree.hasDirectory_root
  · obtain ⟨directory, name, rfl, -, hdirectory⟩ :=
      isPlace_eq_true_iff.1 (isPlace_of_hasEntry h hroot)
    rwa [List.dropLast_concat]

theorem hasEntry_of_hasDirectory (h : tree.hasDirectory location = true) :
    tree.hasEntry location = true := by
  rw [hasEntry, h, Bool.or_true]

theorem lookup_setBytes (files : List (Location × ByteArray)) (location other : Location)
    (bytes : ByteArray) :
    (setBytes files location bytes).lookup other =
      if other = location then some bytes else files.lookup other := by
  have hfilter : (files.filter fun file => file.1 != location).lookup other =
      if other = location then none else files.lookup other := by
    induction files with
    | nil => simp
    | cons file files ih =>
      obtain ⟨name, old⟩ := file
      by_cases hname : name = location
      · by_cases hother : other = location
        · simpa [hname, hother] using ih
        · simp [hname, hother, ih, List.lookup_cons, beq_false_of_ne hother]
      · by_cases hother : other = name
        · simp [hname, hother]
        · simp [hname, List.lookup_cons, beq_false_of_ne hother, ih]
  rw [setBytes, List.lookup_append, hfilter]
  by_cases hother : other = location
  · simp [hother]
  · simp [hother, List.lookup_cons, beq_false_of_ne hother]

section SetFile

variable {bytes : ByteArray} (hplace : tree.isPlace location = true)
  (hfree : tree.hasDirectory location = false)

theorem hasFile_setFile : (tree.setFile location bytes hplace hfree).hasFile location = true :=
  hasFile_eq_true_iff.2 (mem_map_fst_setBytes.2 (.inr rfl))

theorem hasFile_setFile_of_hasFile {other : Location} (h : tree.hasFile other = true) :
    (tree.setFile location bytes hplace hfree).hasFile other = true := by
  by_cases hother : other = location
  · rw [hother]
    exact hasFile_setFile hplace hfree
  · exact hasFile_eq_true_iff.2 (mem_map_fst_setBytes.2 (.inl ⟨hasFile_eq_true_iff.1 h, hother⟩))

end SetFile

/-! ## Paths -/

/-- One piece of a path leads from a directory to an entry. -/
inductive Step (tree : FileTree) (location : Location) (piece : String) : Location → Prop
  | idle (hidle : piece = "" ∨ piece = ".") : Step tree location piece location
  | up (hup : piece = "..") : Step tree location piece location.dropLast
  | down (hname : Path.isName piece = true) (hentry : tree.hasEntry (location ++ [piece]) = true) :
      Step tree location piece (location ++ [piece])

theorem isName_eq_true_iff {piece : String} :
    Path.isName piece = true ↔ ¬ (piece = "" ∨ piece = ".") ∧ piece ≠ ".." := by
  simp [Path.isName]

theorem follow_cons_eq_ok_iff {final : Location} {piece : String} {rest : List String} :
    tree.follow location (piece :: rest) = .ok final ↔
      tree.hasDirectory location = true ∧
        ∃ next, tree.Step location piece next ∧ tree.follow next rest = .ok final := by
  rw [follow]
  constructor
  · intro h
    split at h
    case isFalse => cases h
    case isTrue hdirectory =>
      refine ⟨hdirectory, ?_⟩
      split at h
      case isTrue hidle => exact ⟨_, .idle hidle, h⟩
      case isFalse hidle =>
        split at h
        case isTrue hup => exact ⟨_, .up hup, h⟩
        case isFalse hup =>
          dsimp only at h
          split at h
          case isFalse => cases h
          case isTrue hentry => exact ⟨_, .down (isName_eq_true_iff.2 ⟨hidle, hup⟩) hentry, h⟩
  · rintro ⟨hdirectory, next, hstep, h⟩
    rw [if_pos hdirectory]
    cases hstep with
    | idle hidle => rw [if_pos hidle, h]
    | up hup => rw [hup, if_neg (by decide), if_pos rfl, h]
    | down hname hentry =>
      obtain ⟨hidle, hup⟩ := isName_eq_true_iff.1 hname
      rw [if_neg hidle, if_neg hup]
      dsimp only
      rw [if_pos hentry, h]

/-- A path from an entry leads to an entry. -/
theorem hasEntry_of_follow {final : Location} {pieces : List String}
    (hentry : tree.hasEntry location = true) (h : tree.follow location pieces = .ok final) :
    tree.hasEntry final = true := by
  induction pieces generalizing location with
  | nil => cases h; exact hentry
  | cons piece rest ih =>
    obtain ⟨-, next, hstep, hrest⟩ := follow_cons_eq_ok_iff.1 h
    refine ih ?_ hrest
    cases hstep with
    | idle => exact hentry
    | up => exact hasEntry_of_hasDirectory (hasDirectory_dropLast hentry)
    | down hname hnext => exact hnext

theorem hasDirectory_start (tree : FileTree) (pieces : List String) :
    tree.hasDirectory (tree.start pieces) = true := by
  unfold start
  split
  · exact tree.hasDirectory_root
  · exact tree.isDirectory_workdir

/-- What a path leads to is there. -/
theorem hasEntry_of_locate {path : String} (h : tree.locate path = .ok location) :
    tree.hasEntry location = true := by
  unfold locate at h
  split at h
  · cases h
  · exact hasEntry_of_follow (hasEntry_of_hasDirectory (tree.hasDirectory_start _)) h

theorem follow_append {middle final : Location} {pieces more : List String}
    (h : tree.follow location pieces = .ok middle) (hmore : tree.follow middle more = .ok final) :
    tree.follow location (pieces ++ more) = .ok final := by
  induction pieces generalizing location with
  | nil => cases h; exact hmore
  | cons piece rest ih =>
    obtain ⟨hdirectory, next, hstep, hrest⟩ := follow_cons_eq_ok_iff.1 h
    exact follow_cons_eq_ok_iff.2 ⟨hdirectory, next, hstep, ih hrest⟩

/-- One name leads from a directory to an entry in it. -/
theorem follow_name {directory : Location} {name : String}
    (hdirectory : tree.hasDirectory directory = true) (hname : Path.isName name = true)
    (hentry : tree.hasEntry (directory ++ [name]) = true) :
    tree.follow directory [name] = .ok (directory ++ [name]) :=
  follow_cons_eq_ok_iff.2 ⟨hdirectory, _, .down hname hentry, rfl⟩

/-- Each entry is reached from the root by its names. -/
theorem follow_eq_ok_of_hasEntry (h : tree.hasEntry location = true) :
    tree.follow [] location = .ok location := by
  induction location using List.reverseRecOn with
  | nil => rfl
  | append_singleton directory name ih =>
    obtain ⟨above, last, heq, hname, hdirectory⟩ :=
      isPlace_eq_true_iff.1 (isPlace_of_hasEntry h (by simp))
    obtain ⟨rfl, hlast⟩ := List.append_inj' heq rfl
    cases hlast
    exact follow_append (ih (hasEntry_of_hasDirectory hdirectory)) (follow_name hdirectory hname h)

/-- A path leads where it led also when there are more entries. -/
theorem follow_mono
    (hfiles : ∀ location, tree.hasFile location = true → later.hasFile location = true)
    (hdirectories : ∀ location, tree.hasDirectory location = true →
      later.hasDirectory location = true)
    {final : Location} {pieces : List String}
    (h : tree.follow location pieces = .ok final) : later.follow location pieces = .ok final := by
  have hentries : ∀ location, tree.hasEntry location = true → later.hasEntry location = true := by
    intro location hentry
    rw [hasEntry, Bool.or_eq_true] at hentry ⊢
    exact hentry.imp (hfiles location) (hdirectories location)
  induction pieces generalizing location with
  | nil => exact h
  | cons piece rest ih =>
    obtain ⟨hdirectory, next, hstep, hrest⟩ := follow_cons_eq_ok_iff.1 h
    refine follow_cons_eq_ok_iff.2 ⟨hdirectories _ hdirectory, next, ?_, ih hrest⟩
    cases hstep with
    | idle hidle => exact .idle hidle
    | up hup => exact .up hup
    | down hname hentry => exact .down hname (hentries _ hentry)

/-! ## Contents -/

theorem lookup_files_eq_some_iff {bytes : ByteArray} :
    tree.files.lookup location = some bytes ↔ (location, bytes) ∈ tree.files := by
  constructor
  · intro h
    obtain ⟨before, after, hsplit, -⟩ := List.lookup_eq_some_iff.1 h
    rw [hsplit]
    exact List.mem_append_right _ List.mem_cons_self
  · intro h
    obtain ⟨before, after, hsplit⟩ := List.append_of_mem h
    refine List.lookup_eq_some_iff.2 ⟨before, after, hsplit, fun file hfile => ?_⟩
    have hnodup := (List.nodup_append.1 tree.nodup).1
    rw [hsplit, List.map_append, List.nodup_append] at hnodup
    have hne := hnodup.2.2 file.1 (List.mem_map_of_mem hfile) location (by simp)
    simpa using hne.symm

theorem lookup_files_eq_none_iff :
    tree.files.lookup location = none ↔ tree.hasFile location = false := by
  rw [List.lookup_eq_none_iff, ← Bool.not_eq_true, hasFile_eq_true_iff, List.mem_map]
  constructor
  · rintro hnone ⟨file, hfile, rfl⟩
    simpa using hnone file hfile
  · intro hnew file hfile
    rw [bne_iff_ne]
    rintro rfl
    exact hnew ⟨file, hfile, rfl⟩

/-- What a path leads to is a file or a directory, and not both. -/
theorem contains_eq_xor (tree : FileTree) (path : String) :
    tree.contains path = (tree.isFile path ^^ tree.isDirectory path) := by
  unfold contains isFile isDirectory
  cases hlocate : tree.locate path with
  | error e => rfl
  | ok location =>
    dsimp only
    cases hfile : tree.hasFile location with
    | true => rw [hasDirectory_eq_false_of_hasFile hfile]; rfl
    | false =>
      have hentry := hasEntry_of_locate hlocate
      rw [hasEntry, hfile, Bool.false_or] at hentry
      rw [hentry]
      rfl

/-- A file can be read, or it is no text. -/
theorem readText_of_isFile {path : String} (h : tree.isFile path = true) :
    (∃ text, tree.readText path = .ok text) ∨ tree.readText path = .error .notText := by
  unfold isFile at h
  unfold readText
  cases hlocate : tree.locate path with
  | error e => rw [hlocate] at h; cases h
  | ok location =>
    rw [hlocate] at h
    dsimp only at h
    rw [ok_bind]
    cases hbytes : tree.files.lookup location with
    | none => rw [lookup_files_eq_none_iff.1 hbytes] at h; cases h
    | some bytes =>
      dsimp only
      cases String.fromUTF8? bytes with
      | none => exact .inr rfl
      | some text => exact .inl ⟨text, rfl⟩

/-- The files that are reported as changed are those with other bytes than before. -/
theorem mem_changes_iff {path : String} {bytes : ByteArray} :
    (path, bytes) ∈ tree.changes later ↔ ∃ location, later.pathTo location = path ∧
      later.files.lookup location = some bytes ∧ tree.files.lookup location ≠ some bytes := by
  rw [changes, List.mem_map]
  constructor
  · rintro ⟨⟨location, _⟩, hfile, heq⟩
    cases heq
    obtain ⟨hmem, hnew⟩ := List.mem_filter.1 hfile
    exact ⟨location, rfl, lookup_files_eq_some_iff.2 hmem, by simpa using hnew⟩
  · rintro ⟨location, rfl, hbytes, hnew⟩
    exact ⟨(location, bytes),
      List.mem_filter.2 ⟨lookup_files_eq_some_iff.1 hbytes, by simpa using hnew⟩, rfl⟩

/-! ## Creating directories -/

/-- The second tree is the first with directories added; no file is created or changed. -/
structure GrowsTo (tree later : FileTree) : Prop where
  files : later.files = tree.files
  workdir : later.workdir = tree.workdir
  directories : tree.directories <+: later.directories

namespace GrowsTo

theorem refl (tree : FileTree) : GrowsTo tree tree :=
  ⟨rfl, rfl, List.prefix_rfl⟩

theorem trans {last : FileTree} (h : GrowsTo tree later) (hlast : GrowsTo later last) :
    GrowsTo tree last :=
  ⟨hlast.files.trans h.files, hlast.workdir.trans h.workdir,
    h.directories.trans hlast.directories⟩

theorem changes_eq_nil (h : GrowsTo tree later) : tree.changes later = [] := by
  refine List.eq_nil_iff_forall_not_mem.2 ?_
  intro change hchange
  obtain ⟨location, -, hbytes, hnew⟩ := mem_changes_iff.1 hchange
  rw [h.files] at hbytes
  exact hnew hbytes

end GrowsTo

theorem growsTo_makeDirectory {pieces : List String} (h : tree.makeDirectory pieces = .ok later) :
    GrowsTo tree later := by
  unfold makeDirectory at h
  obtain ⟨location, -, h⟩ := bind_eq_ok_iff.1 h
  split at h
  · cases h
    exact ⟨rfl, rfl, List.prefix_append _ _⟩
  · cases h

theorem growsTo_ensureDirectory {pieces : List String}
    (h : tree.ensureDirectory pieces = .ok later) : GrowsTo tree later := by
  unfold ensureDirectory at h
  split at h
  · rename_i made hmade
    cases h
    exact growsTo_makeDirectory hmade
  · split at h
    · split at h
      · cases h
        exact .refl tree
      · cases h
    · cases h

theorem growsTo_attempt {result : Except FileError FileTree}
    (h : ∀ later, result = .ok later → GrowsTo tree later) : GrowsTo tree (tree.attempt result).1 := by
  cases result with
  | ok later => exact h later rfl
  | error e => exact .refl tree

/-- Creating directories adds directories only, also when it fails on the way. -/
theorem growsTo_ensureDirectories (tree : FileTree) (pieces : List String) :
    GrowsTo tree (tree.ensureDirectories pieces).1 := by
  fun_induction ensureDirectories tree pieces with
  | case1 => exact .refl tree
  | case2 pieces hpieces hmissing above habove ih =>
    rw [habove] at ih
    exact ih.trans (growsTo_attempt fun _ => growsTo_ensureDirectory)
  | case3 pieces hpieces hmissing hfailed ih => exact ih
  | case4 pieces hpieces hother => exact growsTo_attempt fun _ => growsTo_ensureDirectory

/-! ## Writing a file -/

/-- The location that a path is written to: a name in a directory that exists, where no directory
is. -/
structure WritesTo (tree : FileTree) (path : String) (location : Location) : Prop where
  notEmpty : path ≠ ""
  noSlash : path.toList.getLast? ≠ some '/'
  resolve : tree.resolve (Path.pieces path).dropLast = .ok location.dropLast
  getLast? : (Path.pieces path).getLast? = location.getLast?
  isPlace : tree.isPlace location = true
  notDirectory : tree.hasDirectory location = false

theorem WritesTo.exists_name {path : String} (h : tree.WritesTo path location) :
    ∃ directory name, location = directory ++ [name] ∧ Path.isName name = true ∧
      tree.hasDirectory directory = true ∧ (Path.pieces path).getLast? = some name ∧
      tree.resolve (Path.pieces path).dropLast = .ok directory := by
  obtain ⟨directory, name, rfl, hname, hdirectory⟩ := isPlace_eq_true_iff.1 h.isPlace
  have hresolve := h.resolve
  rw [List.dropLast_concat] at hresolve
  exact ⟨directory, name, rfl, hname, hdirectory, by simp [h.getLast?], hresolve⟩

theorem exists_getLast?_pieces (path : String) :
    ∃ name, (Path.pieces path).getLast? = some name := by
  have hne : Path.pieces path ≠ [] := by
    rw [Path.pieces, ne_eq, List.map_eq_nil_iff]
    exact Text.splitAt_ne_nil _ _
  exact ⟨_, List.getLast?_eq_some_getLast hne⟩

theorem target_eq_ok_iff {pieces : List String} {name : String}
    (hname : pieces.getLast? = some name) :
    tree.target pieces = .ok location ↔ ∃ directory, tree.resolve pieces.dropLast = .ok directory ∧
      tree.hasDirectory directory = true ∧ location = directory ++ [name] := by
  rw [target, bind_eq_ok_iff, hname]
  constructor
  · rintro ⟨directory, hresolve, h⟩
    split at h
    · cases h
      exact ⟨directory, hresolve, ‹_›, rfl⟩
    · cases h
  · rintro ⟨directory, hresolve, hdirectory, rfl⟩
    exact ⟨directory, hresolve, if_pos hdirectory⟩

theorem dropEndWhile_slash {path : String} (hslash : path.toList.getLast? ≠ some '/') :
    String.ofList (Text.dropEndWhile (· == '/') path.toList) = path := by
  rw [Text.dropEndWhile_eq_self, String.ofList_toList]
  intro c hc
  rw [beq_eq_false_iff_ne]
  rintro rfl
  exact hslash hc

/-- Writing a file sets the bytes at the location of its path, whatever they are. -/
theorem writeFile_eq_ok_iff {path : String} {bytes : ByteArray} :
    tree.writeFile path bytes = .ok later ↔
      ∃ (location : Location) (h : tree.WritesTo path location),
        later = tree.setFile location bytes h.isPlace h.notDirectory := by
  unfold writeFile
  by_cases hempty : path = ""
  · rw [if_pos hempty]
    exact ⟨fun h => (nomatch h), fun ⟨_, h, _⟩ => absurd hempty h.notEmpty⟩
  rw [if_neg hempty, bind_eq_ok_iff]
  by_cases hslash : path.toList.getLast? = some '/'
  · simp only [if_pos hslash]
    exact ⟨fun ⟨_, _, h⟩ => (nomatch h), fun ⟨_, h, _⟩ => absurd hslash h.noSlash⟩
  simp only [if_neg hslash]
  obtain ⟨name, hname⟩ := exists_getLast?_pieces path
  rw [dropEndWhile_slash hslash]
  constructor
  · rintro ⟨location, htarget, h⟩
    obtain ⟨directory, hresolve, -, rfl⟩ := (target_eq_ok_iff hname).1 htarget
    split at h
    case isFalse => cases h
    case isTrue hfits =>
      cases h
      exact ⟨_, ⟨hempty, hslash, by rwa [List.dropLast_concat], by simp [hname], hfits.1, hfits.2⟩,
        rfl⟩
  · rintro ⟨location, h, rfl⟩
    obtain ⟨directory, last, rfl, -, hdirectory, hlast, hresolve⟩ := h.exists_name
    exact ⟨_, (target_eq_ok_iff hlast).2 ⟨directory, hresolve, hdirectory, rfl⟩,
      dif_pos ⟨h.isPlace, h.notDirectory⟩⟩

/-- A name at the end does not change where a path starts. -/
theorem start_append_name (tree : FileTree) (pieces : List String) {name : String}
    (hname : Path.isName name = true) : tree.start (pieces ++ [name]) = tree.start pieces := by
  cases pieces with
  | nil =>
    have hempty : name ≠ "" := fun h => (isName_eq_true_iff.1 hname).1 (.inl h)
    simp [start, hempty]
  | cons piece rest => rfl

/-- After writing, the path leads to what was written. -/
theorem WritesTo.locate_setFile {path : String} (h : tree.WritesTo path location)
    (bytes : ByteArray) :
    (tree.setFile location bytes h.isPlace h.notDirectory).locate path = .ok location := by
  obtain ⟨directory, name, rfl, hname, hdirectory, hlast, hresolve⟩ := h.exists_name
  rw [locate, if_neg h.notEmpty, FileTree.resolve, ← List.dropLast_append_getLast? name hlast,
    start_append_name _ _ hname]
  apply follow_append
  · exact follow_mono (fun other => hasFile_setFile_of_hasFile h.isPlace h.notDirectory)
      (fun other hother => hother) hresolve
  · apply follow_name
    · exact hdirectory
    · exact hname
    · rw [hasEntry, hasFile_setFile h.isPlace h.notDirectory, Bool.true_or]

/-! ## Other bytes in the files -/

/-- The tree with the bytes of every file changed. -/
def mapFiles (tree : FileTree) (change : Location → ByteArray → ByteArray) : FileTree where
  files := tree.files.map fun file => (file.1, change file.1 file.2)
  directories := tree.directories
  workdir := tree.workdir
  nodup := by
    rw [List.map_map]
    exact tree.nodup
  isPlace_of_mem := by
    rw [List.map_map]
    exact tree.isPlace_of_mem
  isDirectory_workdir := tree.isDirectory_workdir

section MapFiles

variable (tree) (change : Location → ByteArray → ByteArray)

@[simp] theorem directories_mapFiles : (tree.mapFiles change).directories = tree.directories :=
  rfl

@[simp] theorem workdir_mapFiles : (tree.mapFiles change).workdir = tree.workdir :=
  rfl

@[simp] theorem map_fst_files_mapFiles :
    (tree.mapFiles change).files.map Prod.fst = tree.files.map Prod.fst := by
  simp [mapFiles, Function.comp_def]

theorem lookup_files_mapFiles (location : Location) :
    (tree.mapFiles change).files.lookup location =
      (tree.files.lookup location).map (change location) := by
  unfold mapFiles
  dsimp only
  induction tree.files with
  | nil => rfl
  | cons file files ih =>
    obtain ⟨name, bytes⟩ := file
    by_cases hlocation : location = name
    · simp [hlocation]
    · simp [List.lookup_cons, beq_false_of_ne hlocation, ih]

@[simp] theorem hasFile_mapFiles (location : Location) :
    (tree.mapFiles change).hasFile location = tree.hasFile location := by
  simp [hasFile, mapFiles, Function.comp_def]

@[simp] theorem hasDirectory_mapFiles (location : Location) :
    (tree.mapFiles change).hasDirectory location = tree.hasDirectory location := by
  simp [hasDirectory]

@[simp] theorem hasEntry_mapFiles (location : Location) :
    (tree.mapFiles change).hasEntry location = tree.hasEntry location := by
  simp [hasEntry]

@[simp] theorem isPlace_mapFiles (location : Location) :
    (tree.mapFiles change).isPlace location = tree.isPlace location :=
  rfl

@[simp] theorem follow_mapFiles (location : Location) (pieces : List String) :
    (tree.mapFiles change).follow location pieces = tree.follow location pieces := by
  induction pieces generalizing location with
  | nil => rfl
  | cons piece rest ih => simp only [follow, hasEntry_mapFiles, hasDirectory_mapFiles, ih]

@[simp] theorem resolve_mapFiles (pieces : List String) :
    (tree.mapFiles change).resolve pieces = tree.resolve pieces :=
  follow_mapFiles tree change _ pieces

@[simp] theorem locate_mapFiles (path : String) :
    (tree.mapFiles change).locate path = tree.locate path := by
  simp [locate]

@[simp] theorem isFile_mapFiles (path : String) :
    (tree.mapFiles change).isFile path = tree.isFile path := by
  simp [isFile]

@[simp] theorem isDirectory_mapFiles (path : String) :
    (tree.mapFiles change).isDirectory path = tree.isDirectory path := by
  simp [isDirectory]

@[simp] theorem contains_mapFiles (path : String) :
    (tree.mapFiles change).contains path = tree.contains path := by
  simp [contains]

@[simp] theorem names_mapFiles (location : Location) :
    (tree.mapFiles change).names location = tree.names location := by
  simp [names]

@[simp] theorem directoriesFrom_mapFiles (location : Location) :
    (tree.mapFiles change).directoriesFrom location = tree.directoriesFrom location :=
  rfl

@[simp] theorem namesAt_mapFiles (base : String) :
    Glob.namesAt (tree.mapFiles change) base = Glob.namesAt tree base := by
  simp [Glob.namesAt]

@[simp] theorem directoriesAt_mapFiles (base : String) :
    Glob.directoriesAt (tree.mapFiles change) base = Glob.directoriesAt tree base := by
  simp [Glob.directoriesAt]

/-- A pattern matches the same paths. -/
@[simp] theorem expand_mapFiles (base : String) (components : List Glob.Component) :
    Glob.expand (tree.mapFiles change) base components = Glob.expand tree base components := by
  fun_induction Glob.expand tree base components with
  | case1 => rfl
  | case2 base text rest next found hfound ih =>
    rw [Glob.expand]
    simp only [isDirectory_mapFiles, contains_mapFiles]
    exact (if_pos hfound).trans ih
  | case3 base text rest next found hfound =>
    rw [Glob.expand]
    simp only [isDirectory_mapFiles, contains_mapFiles]
    exact if_neg hfound
  | case4 base items rest ihdot ihname =>
    simp only [Glob.expand, isDirectory_mapFiles, namesAt_mapFiles, ihdot, ihname]
  | case5 base => simp only [Glob.expand, directoriesAt_mapFiles]
  | case6 base rest ih => rw [Glob.expand, ih]
  | case7 base component rest _ ih =>
    simp only [Glob.expand, directoriesAt_mapFiles, namesAt_mapFiles, ih]

@[simp] theorem target_mapFiles (pieces : List String) :
    (tree.mapFiles change).target pieces = tree.target pieces := by
  simp [target]

theorem makeDirectory_mapFiles (pieces : List String) :
    (tree.mapFiles change).makeDirectory pieces =
      (tree.makeDirectory pieces).map fun made => made.mapFiles change := by
  unfold makeDirectory
  rw [target_mapFiles]
  cases tree.target (Path.dropIdlePieces pieces) with
  | error e => rfl
  | ok location =>
    rw [ok_bind, ok_bind]
    by_cases hfree : tree.isPlace location = true ∧ tree.hasEntry location = false
    · have hfree' : (tree.mapFiles change).isPlace location = true ∧
          (tree.mapFiles change).hasEntry location = false := by simpa using hfree
      rw [dif_pos hfree, dif_pos hfree']
      rfl
    · have hfree' : ¬ ((tree.mapFiles change).isPlace location = true ∧
          (tree.mapFiles change).hasEntry location = false) := by simpa using hfree
      rw [dif_neg hfree, dif_neg hfree']
      rfl

theorem ensureDirectory_mapFiles (pieces : List String) :
    (tree.mapFiles change).ensureDirectory pieces =
      (tree.ensureDirectory pieces).map fun made => made.mapFiles change := by
  unfold ensureDirectory
  rw [makeDirectory_mapFiles]
  cases tree.makeDirectory pieces with
  | ok made => rfl
  | error e =>
    dsimp only [Except.map]
    rw [resolve_mapFiles]
    cases tree.resolve pieces with
    | error e => rfl
    | ok location =>
      dsimp only
      rw [hasDirectory_mapFiles]
      split <;> rfl

theorem attempt_mapFiles (result : Except FileError FileTree) :
    (tree.mapFiles change).attempt (result.map fun later => later.mapFiles change) =
      ((tree.attempt result).1.mapFiles change, (tree.attempt result).2) := by
  cases result <;> rfl

theorem ensureDirectories_mapFiles (pieces : List String) :
    (tree.mapFiles change).ensureDirectories pieces =
      ((tree.ensureDirectories pieces).1.mapFiles change, (tree.ensureDirectories pieces).2) := by
  fun_induction ensureDirectories tree pieces with
  | case1 => rw [ensureDirectories]; rfl
  | case2 pieces hpieces hmissing above habove ih =>
    rw [ensureDirectories, dif_neg hpieces, ensureDirectory_mapFiles, hmissing]
    dsimp only [Except.map]
    rw [ih, habove]
    dsimp only
    rw [ensureDirectory_mapFiles, attempt_mapFiles]
  | case3 pieces hpieces hmissing hfailed ih =>
    rw [ensureDirectories, dif_neg hpieces, ensureDirectory_mapFiles, hmissing]
    dsimp only [Except.map]
    rw [ih]
    generalize tree.ensureDirectories (Path.parentPieces pieces) = result at hfailed ⊢
    obtain ⟨above, failure⟩ := result
    cases failure with
    | none => exact absurd rfl (hfailed above)
    | some e => rfl
  | case4 pieces hpieces hother =>
    rw [ensureDirectories, dif_neg hpieces, ensureDirectory_mapFiles]
    cases hresult : tree.ensureDirectory pieces with
    | ok made => rfl
    | error e =>
      cases e with
      | notFound => exact absurd hresult hother
      | _ => rfl

theorem writesTo_mapFiles_iff {path : String} {location : Location} :
    (tree.mapFiles change).WritesTo path location ↔ tree.WritesTo path location := by
  constructor
  · intro h
    exact ⟨h.notEmpty, h.noSlash, by simpa using h.resolve, h.getLast?, h.isPlace, h.notDirectory⟩
  · intro h
    exact ⟨h.notEmpty, h.noSlash, by simpa using h.resolve, h.getLast?, h.isPlace, h.notDirectory⟩

theorem writeFile_mapFiles_error {path : String} {bytes : ByteArray} {e : FileError}
    (h : tree.writeFile path bytes = .error e) :
    (tree.mapFiles change).writeFile path bytes = .error e := by
  unfold writeFile at h ⊢
  rw [target_mapFiles]
  split at h
  case isTrue hempty => rw [if_pos hempty, h]
  case isFalse hempty =>
    rw [if_neg hempty]
    cases htarget : tree.target
      (Path.pieces (String.ofList (Text.dropEndWhile (· == '/') path.toList))) with
    | error e' => rw [htarget] at h; exact h
    | ok location =>
      rw [htarget, ok_bind] at h
      rw [ok_bind]
      split at h
      case isTrue hslash => rw [if_pos hslash, h]
      case isFalse hslash =>
        split at h
        case isTrue => cases h
        case isFalse hfits =>
          have hfits' : ¬ ((tree.mapFiles change).isPlace location = true ∧
              (tree.mapFiles change).hasDirectory location = false) := by simpa using hfits
          rw [if_neg hslash, dif_neg hfits', h]

end MapFiles

end FileTree

end ComponentDocs
