import Mathlib.Logic.Relation
import ComponentDocs.Options
import ComponentDocs.Proofs.Text.Lines
import ComponentDocs.Proofs.Text.Trim

/-!
# Spellings of file names

Two spellings of a file name differ by any number of `./` in front and by the slashes that are
written as backslashes.  Those of a root directory also differ by the slashes and backslashes at the
end.  What a file is called in a report and whether it takes part depend on none of this.

Each step from one spelling to another keeps the name that is compared (`dropDotSlashes_step`), and
for a root directory what names are cut by (`cut?_step`).  Directly comparing the roots would not
do: `.` and `./` are different as texts, and cut names alike because they cut nothing.
-/

namespace ComponentDocs

open Text Relation

/-- One step from a spelling of a file name to another. -/
inductive FileStep : String → String → Prop
  | dotSlash (path : String) : FileStep path ("./" ++ path)
  | backslash (before after : String) : FileStep (before ++ "/" ++ after) (before ++ "\\" ++ after)

/-- One step from a spelling of a root directory to another. -/
inductive RootStep : String → String → Prop
  | file {path other : String} (h : FileStep path other) : RootStep path other
  | slash (path : String) : RootStep path (path ++ "/")
  | backslash (path : String) : RootStep path (path ++ "\\")

namespace Options

/-- With its backslashes as slashes, the path is `stem` behind any number of `./`. -/
def HasStem (path stem : String) : Prop :=
  (∃ n, forwardSlashes path.toList = (List.replicate n ['.', '/']).flatten ++ stem.toList) ∧
    ¬ ['.', '/'] <+: stem.toList

/-- With its backslashes as slashes, the path is `root` behind any number of `./` and in front of
any number of slashes. -/
def HasRoot (path root : String) : Prop :=
  (∃ n m, forwardSlashes path.toList =
      (List.replicate n ['.', '/']).flatten ++ (root.toList ++ List.replicate m '/')) ∧
    ¬ ['.', '/'] <+: root.toList ∧ root.toList.getLast? ≠ some '/'

/-- What names are cut by, if anything. -/
def cut? (path : List Char) : Option (List Char) :=
  let root := dropEndWhile (· == '/') (dropDotSlashes (forwardSlashes path))
  if root = [] ∨ root = ['.'] then none else some (root ++ ['/'])

theorem relativeChars_eq (options : Options) (name : List Char) :
    options.relativeChars name =
      ((cut? options.rootDir.toList).bind fun start =>
        dropStart? start (dropDotSlashes (forwardSlashes name))).getD
          (dropDotSlashes (forwardSlashes name)) := by
  have hcut : cut? options.rootDir.toList =
      if options.root = [] ∨ options.root = ['.'] then none else some (options.root ++ ['/']) := rfl
  rw [hcut]
  unfold relativeChars
  dsimp only
  by_cases hroot : options.root = [] ∨ options.root = ['.']
  · rw [if_pos hroot, if_pos hroot, Option.bind_none, Option.getD_none]
  · rw [if_neg hroot, if_neg hroot, Option.bind_some]

/-! ## Steps -/

theorem forwardSlashes_append (path other : List Char) :
    forwardSlashes (path ++ other) = forwardSlashes path ++ forwardSlashes other :=
  List.map_append

theorem forwardSlashes_step {path other : String} (h : FileStep path other) :
    ∃ n, forwardSlashes other.toList =
      (List.replicate n ['.', '/']).flatten ++ forwardSlashes path.toList := by
  cases h with
  | dotSlash path => exact ⟨1, by rw [String.toList_append, forwardSlashes_append]; rfl⟩
  | backslash before after =>
    have hmark : forwardSlashes "\\".toList = forwardSlashes "/".toList := by
      simp [forwardSlashes]
    refine ⟨0, ?_⟩
    simp only [String.toList_append, forwardSlashes_append, hmark, List.replicate_zero,
      List.flatten_nil, List.nil_append]

theorem dropDotSlashes_replicate (n : Nat) (path : List Char) :
    dropDotSlashes ((List.replicate n ['.', '/']).flatten ++ path) = dropDotSlashes path := by
  induction n with
  | zero => rfl
  | succ n ih => exact ih

theorem dropDotSlashes_eq_self {path : List Char} (h : ¬ ['.', '/'] <+: path) :
    dropDotSlashes path = path := by
  fun_cases dropDotSlashes path with
  | case1 rest => exact absurd (List.prefix_append ['.', '/'] rest) h
  | case2 => rfl

/-- Steps between spellings of a file name keep the name that is compared. -/
theorem dropDotSlashes_step {path other : String} (h : FileStep path other) :
    dropDotSlashes (forwardSlashes other.toList) = dropDotSlashes (forwardSlashes path.toList) := by
  obtain ⟨n, hn⟩ := forwardSlashes_step h
  rw [hn, dropDotSlashes_replicate]

/-- What stands behind a path makes no `./` at its start. -/
theorem not_dotSlash_append {path : List Char} (hpath : ¬ ['.', '/'] <+: path) (hne : path ≠ [])
    (hdot : path ≠ ['.']) (rest : List Char) : ¬ ['.', '/'] <+: path ++ rest := by
  intro hstart
  rcases path with _ | ⟨c, _ | ⟨d, others⟩⟩
  · exact hne rfl
  · exact hdot (by rw [(List.cons_prefix_cons.1 hstart).1])
  · obtain ⟨hc, hrest⟩ := List.cons_prefix_cons.1 hstart
    have hd := (List.cons_prefix_cons.1 hrest).1
    exact hpath ⟨others, by rw [hc, hd]; rfl⟩

/-- A slash behind a path stays there, unless it makes `./` of a `.` that stood alone. -/
theorem dropDotSlashes_concat (path : List Char) :
    dropDotSlashes (path ++ ['/']) = dropDotSlashes path ++ ['/'] ∨
      dropDotSlashes path = ['.'] ∧ dropDotSlashes (path ++ ['/']) = [] := by
  fun_induction dropDotSlashes path with
  | case1 rest ih => exact ih
  | case2 path hpath =>
    by_cases hdot : path = ['.']
    · exact .inr ⟨hdot, by rw [hdot]; rfl⟩
    refine .inl (dropDotSlashes_eq_self ?_)
    by_cases hne : path = []
    · rw [hne]
      decide
    · refine not_dotSlash_append ?_ hne hdot ['/']
      rintro ⟨rest, hrest⟩
      exact hpath rest hrest.symm

/-- Steps between spellings of a root directory keep what names are cut by. -/
theorem cut?_step {path other : String} (h : RootStep path other) :
    cut? other.toList = cut? path.toList := by
  have hconcat : ∀ path : List Char, forwardSlashes other.toList = forwardSlashes path ++ ['/'] →
      cut? other.toList = cut? path := by
    intro path hother
    rw [cut?, cut?, hother]
    rcases dropDotSlashes_concat (forwardSlashes path) with hslash | ⟨hdot, hnil⟩
    · rw [hslash, dropEndWhile_append_of_pos (by simp)]
    · rw [hdot, hnil]
      rfl
  cases h with
  | file h => rw [cut?, cut?, dropDotSlashes_step h]
  | slash =>
    exact hconcat path.toList (by rw [String.toList_append, forwardSlashes_append]; rfl)
  | backslash =>
    exact hconcat path.toList (by rw [String.toList_append, forwardSlashes_append]; rfl)

theorem eq_of_eqvGen {α β : Type} {r : α → α → Prop} {f : α → β}
    (hstep : ∀ {a b}, r a b → f b = f a) {a b : α} (h : EqvGen r a b) : f b = f a := by
  induction h with
  | rel a b h => exact hstep h
  | refl a => rfl
  | symm a b _ ih => exact ih.symm
  | trans a b c _ _ hab hbc => exact hbc.trans hab

theorem relativeName_congr {options other : Options}
    (hroot : EqvGen RootStep options.rootDir other.rootDir) {name name' : String}
    (hname : EqvGen FileStep name name') :
    other.relativeName name' = options.relativeName name := by
  have hcut : cut? other.rootDir.toList = cut? options.rootDir.toList :=
    eq_of_eqvGen (f := fun path : String => cut? path.toList) cut?_step hroot
  have hstem : dropDotSlashes (forwardSlashes name'.toList) =
      dropDotSlashes (forwardSlashes name.toList) :=
    eq_of_eqvGen (f := fun path : String => dropDotSlashes (forwardSlashes path.toList))
      dropDotSlashes_step hname
  rw [relativeName, relativeName, relativeChars_eq, relativeChars_eq, hcut, hstem]

/-! ## Names below the root directory -/

theorem exists_replicate_dropDotSlashes (path : List Char) :
    (∃ n, path = (List.replicate n ['.', '/']).flatten ++ dropDotSlashes path) ∧
      ¬ ['.', '/'] <+: dropDotSlashes path := by
  fun_induction dropDotSlashes path with
  | case1 rest ih =>
    obtain ⟨⟨n, hn⟩, hstem⟩ := ih
    refine ⟨⟨n + 1, ?_⟩, hstem⟩
    rw [List.replicate_succ, List.flatten_cons, List.append_assoc, ← hn]
    rfl
  | case2 path hpath =>
    refine ⟨⟨0, rfl⟩, ?_⟩
    rintro ⟨rest, hrest⟩
    exact hpath rest hrest.symm

theorem exists_hasStem (path : String) : ∃ stem, HasStem path stem := by
  have hstem := exists_replicate_dropDotSlashes (forwardSlashes path.toList)
  exact ⟨String.ofList (dropDotSlashes (forwardSlashes path.toList)), by
    rwa [HasStem, String.toList_ofList]⟩

theorem exists_hasRoot (path : String) : ∃ root, HasRoot path root := by
  obtain ⟨⟨n, hn⟩, hstart⟩ := exists_replicate_dropDotSlashes (forwardSlashes path.toList)
  generalize dropDotSlashes (forwardSlashes path.toList) = stem at hn hstart
  have hslashes : stem.rtakeWhile (· == '/') =
      List.replicate (stem.rtakeWhile (· == '/')).length '/' :=
    List.eq_replicate_iff.2 ⟨rfl, fun c hc =>
      beq_iff_eq.1 (List.mem_rtakeWhile_imp (p := fun c => c == '/') hc)⟩
  refine ⟨String.ofList (dropEndWhile (· == '/') stem),
    ⟨n, (stem.rtakeWhile (· == '/')).length, ?_⟩, ?_, ?_⟩
  · rw [String.toList_ofList, ← hslashes, hn]
    exact congrArg _ List.rdropWhile_append_rtakeWhile.symm
  · rw [String.toList_ofList]
    exact fun h => hstart (h.trans (List.rdropWhile_prefix _ _))
  · rw [String.toList_ofList]
    exact fun hlast => absurd (eq_false_of_getLast?_dropEndWhile hlast) (by decide)

theorem HasStem.eq {path stem : String} (h : HasStem path stem) :
    dropDotSlashes (forwardSlashes path.toList) = stem.toList := by
  obtain ⟨⟨n, hn⟩, hstem⟩ := h
  rw [hn, dropDotSlashes_replicate, dropDotSlashes_eq_self hstem]

section

variable {path root : String}

theorem HasRoot.notMem_backslash (h : HasRoot path root) : '\\' ∉ root.toList := by
  obtain ⟨⟨n, m, hpath⟩, -⟩ := h
  intro hmem
  have hslashed : '\\' ∈ forwardSlashes path.toList := by
    rw [hpath]
    exact List.mem_append_right _ (List.mem_append_left _ hmem)
  obtain ⟨c, -, hc⟩ := List.mem_map.1 hslashed
  split at hc
  · cases hc
  · contradiction

theorem HasRoot.dropDotSlashes_append (h : HasRoot path root) (hne : root ≠ "")
    (hdot : root ≠ ".") (rest : List Char) :
    dropDotSlashes (root.toList ++ rest) = root.toList ++ rest := by
  refine dropDotSlashes_eq_self (not_dotSlash_append h.2.1 ?_ ?_ rest)
  · exact fun hnil => hne (String.toList_injective hnil)
  · exact fun hsingle => hdot (String.toList_injective hsingle)

theorem HasRoot.cut?_eq (h : HasRoot path root) (hne : root ≠ "") (hdot : root ≠ ".") :
    cut? path.toList = some (root.toList ++ ['/']) := by
  obtain ⟨⟨n, m, hpath⟩, -, hlast⟩ := id h
  have hroot : dropEndWhile (· == '/') (dropDotSlashes (forwardSlashes path.toList)) =
      root.toList := by
    rw [hpath, dropDotSlashes_replicate, h.dropDotSlashes_append hne hdot,
      dropEndWhile_append_of_pos (by simp)]
    refine dropEndWhile_eq_self fun c hc => beq_eq_false_iff_ne.2 ?_
    rintro rfl
    exact hlast hc
  have hspecial : ¬ (root.toList = [] ∨ root.toList = ['.']) := by
    rintro (hnil | hsingle)
    · exact hne (String.toList_injective hnil)
    · exact hdot (String.toList_injective hsingle)
  rw [cut?, hroot]
  exact if_neg hspecial

end

theorem forwardSlashes_eq_self {path : List Char} (h : '\\' ∉ path) :
    forwardSlashes path = path := by
  refine (List.map_congr_left (g := id) fun c hc => if_neg ?_).trans (List.map_id path)
  rintro rfl
  exact h hc

/-- A name below the root directory is cut to its part below it. -/
theorem relativeName_below {options : Options} {root : String}
    (hroot : HasRoot options.rootDir root) (hne : root ≠ "") (hdot : root ≠ ".") {file : String}
    (hfile : '\\' ∉ file.toList) :
    options.relativeName (root ++ "/" ++ file) = file := by
  have hplain : '\\' ∉ (root ++ "/" ++ file).toList := by
    simp [hroot.notMem_backslash, hfile]
  have hslash : "/".toList = ['/'] := rfl
  have hname : dropDotSlashes (forwardSlashes (root ++ "/" ++ file).toList) =
      (root.toList ++ ['/']) ++ file.toList := by
    rw [forwardSlashes_eq_self hplain, String.toList_append, String.toList_append,
      List.append_assoc, hroot.dropDotSlashes_append hne hdot, hslash, List.append_assoc]
  rw [relativeName, relativeChars_eq, hname, hroot.cut?_eq hne hdot, Option.bind_some,
    dropStart?_append, Option.getD_some, String.ofList_toList]

/-- A name that is not below the root directory is kept. -/
theorem relativeName_elsewhere {options : Options} {root : String}
    (hroot : HasRoot options.rootDir root) (hne : root ≠ "") (hdot : root ≠ ".")
    {name stem : String} (hname : HasStem name stem)
    (helsewhere : ¬ (root ++ "/").toList <+: stem.toList) :
    options.relativeName name = stem := by
  have hstart : dropStart? (root.toList ++ ['/']) stem.toList = none :=
    dropStart?_eq_none (by rwa [String.toList_append] at helsewhere)
  rw [relativeName, relativeChars_eq, hname.eq, hroot.cut?_eq hne hdot, Option.bind_some, hstart,
    Option.getD_none, String.ofList_toList]

theorem includes_congr {options other : Options}
    (hroot : EqvGen RootStep options.rootDir other.rootDir)
    (hfiles : List.Forall₂ (EqvGen FileStep) options.files other.files) {name name' : String}
    (hname : EqvGen FileStep name name') : other.includes name' = options.includes name := by
  rw [includes, includes, relativeName_congr hroot hname]
  generalize options.files = files at hfiles
  generalize other.files = files' at hfiles
  have hany : files'.any (fun file => other.relativeName file == options.relativeName name) =
      files.any fun file => options.relativeName file == options.relativeName name := by
    induction hfiles with
    | nil => rw [List.any_nil, List.any_nil]
    | cons hfile _ ih => rw [List.any_cons, List.any_cons, ih, relativeName_congr hroot hfile]
  rw [hany]
  cases hfiles <;> rfl

/-- The name of a file in a report, and whether it takes part, do not depend on how the file, the
root directory and the listed files are spelled.  Every root directory is some text between any
number of `./` and any number of slashes.  If that is neither empty nor `.`, a name below it is cut
to its part below it, and any other name only loses the `./` in front. -/
theorem relativeName_respelled :
    (∀ {options other : Options} {name name' : String},
        EqvGen RootStep options.rootDir other.rootDir →
        List.Forall₂ (EqvGen FileStep) options.files other.files → EqvGen FileStep name name' →
          other.relativeName name' = options.relativeName name ∧
            other.includes name' = options.includes name) ∧
      (∀ path, (∃ root, HasRoot path root) ∧ ∃ stem, HasStem path stem) ∧
      ∀ {options : Options} {root : String}, HasRoot options.rootDir root → root ≠ "" → root ≠ "." →
        (∀ file : String, '\\' ∉ file.toList → options.relativeName (root ++ "/" ++ file) = file) ∧
          ∀ {name stem : String}, HasStem name stem → ¬ (root ++ "/").toList <+: stem.toList →
            options.relativeName name = stem := by
  refine ⟨?_, fun path => ⟨exists_hasRoot path, exists_hasStem path⟩, ?_⟩
  · intro options other name name' hroot hfiles hname
    exact ⟨relativeName_congr hroot hname, includes_congr hroot hfiles hname⟩
  · intro options root hroot hne hdot
    exact ⟨fun file hfile => relativeName_below hroot hne hdot hfile,
      fun hname helsewhere => relativeName_elsewhere hroot hne hdot hname helsewhere⟩

-- The root directory `./src/` cuts names below `src` and not those below `src-x`.
theorem relativeName_respelled_src :
    let options : Options := { default with rootDir := "src", files := ["a/b.ts"] }
    let other : Options := { default with rootDir := "./src/", files := ["a\\b.ts"] }
    EqvGen RootStep options.rootDir other.rootDir ∧
      List.Forall₂ (EqvGen FileStep) options.files other.files ∧
      EqvGen FileStep "src/a/b.ts" "./src/a/b.ts" ∧
      other.includes "./src/a/b.ts" = options.includes "src/a/b.ts" ∧
      HasRoot other.rootDir "src" ∧ other.relativeName ("src" ++ "/" ++ "a/b.ts") = "a/b.ts" ∧
      HasStem ".\\src-x/a.ts" "src-x/a.ts" ∧ other.relativeName ".\\src-x/a.ts" = "src-x/a.ts" := by
  intro options other
  have hroot : EqvGen RootStep options.rootDir other.rootDir :=
    .trans _ _ _ (.rel _ _ (.file (.dotSlash "src"))) (.rel _ _ (.slash "./src"))
  have hfiles : List.Forall₂ (EqvGen FileStep) options.files other.files :=
    .cons (.rel _ _ (.backslash "a" "b.ts")) .nil
  have hname : EqvGen FileStep "src/a/b.ts" "./src/a/b.ts" := .rel _ _ (.dotSlash "src/a/b.ts")
  have hhasRoot : HasRoot other.rootDir "src" := ⟨⟨1, 1, by decide⟩, by decide, by decide⟩
  have hstem : HasStem ".\\src-x/a.ts" "src-x/a.ts" := ⟨⟨1, by decide⟩, by decide⟩
  obtain ⟨hbelow, helsewhere⟩ := relativeName_respelled.2.2 hhasRoot (by decide) (by decide)
  exact ⟨hroot, hfiles, hname, (relativeName_respelled.1 hroot hfiles hname).2, hhasRoot,
    hbelow "a/b.ts" (by decide), hstem, helsewhere hstem (by decide)⟩

end Options

end ComponentDocs
