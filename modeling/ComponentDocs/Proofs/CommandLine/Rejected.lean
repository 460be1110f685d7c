import ComponentDocs.Proofs.CommandLine.Failure
import ComponentDocs.Proofs.Declaration.Equations
import ComponentDocs.Proofs.Token.Scan

/-!
# Files that cannot be parsed

A selected file that cannot be parsed has no influence on a run beyond what is logged about it.  The
run is compared with the run on the tree in which all these files are empty (`emptyRejected`).  The
inputs stand for the same paths there, an empty file declares no class, and a file without classes
leaves the registry as it is (`build_withClasses`).  So both runs go through the same stages, and
the first logs more about the rejected files while they are read (`readSources_emptied`).
-/

namespace ComponentDocs

/-- The second tree is the first with these directories and, if there is one, this file written. -/
structure FileTree.ChangesTo (tree later : FileTree) (directories : List Location)
    (written : Option (Location × ByteArray)) : Prop where
  files : later.files =
    match written with
    | none => tree.files
    | some (location, bytes) => FileTree.setBytes tree.files location bytes
  directories : later.directories = directories
  workdir : later.workdir = tree.workdir

/-- What is changed determines the second tree. -/
theorem FileTree.ChangesTo.unique {tree later other : FileTree} {directories : List Location}
    {written : Option (Location × ByteArray)} (h : tree.ChangesTo later directories written)
    (hother : tree.ChangesTo other directories written) : later = other :=
  FileTree.ext (h.files.trans hother.files.symm) (h.directories.trans hother.directories.symm)
    (h.workdir.trans hother.workdir.symm)

/-- The event is about reading the file at a path. -/
def Event.isAbout (path : String) : Event → Bool
  | .skippedFile other _ => other == path
  | .remark other _ => other == path
  | _ => false

theorem Event.isAbout_unique {event : Event} {path path' : String}
    (h : event.isAbout path = true) (h' : event.isAbout path' = true) : path = path' := by
  cases event <;> simp_all [Event.isAbout]

namespace CommandLine

/-- A file that can be read and not be parsed. -/
def isRejected (tree : FileTree) (path : String) : Bool :=
  match tree.readText path with
  | .error _ => false
  | .ok text => !(SourceFile.parse path text).value.isOk

/-- The selected files that can be read and not be parsed. -/
def rejected (tree : FileTree) (args : List String) : List String :=
  match Arguments.parse args with
  | none => []
  | some arguments => (selected tree arguments.inputs).filter (isRejected tree)

/-- The tree with all rejected files empty. -/
def emptyRejected (tree : FileTree) (args : List String) : FileTree :=
  tree.mapFiles fun location bytes =>
    if ∃ path ∈ rejected tree args, (tree.locate path).toOption = some location then
      ByteArray.empty
    else bytes

/-! ## The same paths -/

section MapFiles

variable (tree : FileTree) (change : Location → ByteArray → ByteArray)

theorem inputPattern_mapFiles (input : String) :
    inputPattern (tree.mapFiles change) input = inputPattern tree input := by
  simp [inputPattern]

theorem globFiles_mapFiles (pattern : Glob.Pattern) :
    Glob.files (tree.mapFiles change) pattern = Glob.files tree pattern := by
  have hfile : (tree.mapFiles change).isFile = tree.isFile :=
    funext (FileTree.isFile_mapFiles tree change)
  simp [Glob.files, hfile]

theorem selectInput_mapFiles (input : String) :
    selectInput (tree.mapFiles change) input = selectInput tree input := by
  simp only [selectInput, FileTree.isFile_mapFiles, inputPattern_mapFiles, globFiles_mapFiles]

theorem collectInputs_mapFiles (inputs : List String) :
    collectInputs (tree.mapFiles change) inputs = collectInputs tree inputs := by
  induction inputs with
  | nil => rfl
  | cons input inputs ih => simp only [collectInputs, selectInput_mapFiles, ih]

theorem selectFiles_mapFiles (inputs : List String) :
    selectFiles (tree.mapFiles change) inputs = selectFiles tree inputs := by
  simp only [selectFiles, collectInputs_mapFiles]

end MapFiles

/-! ## Reading -/

section Reading

variable {tree other : FileTree} {dropped : List String}

/-- Whether a text is rejected does not depend on the name of its file. -/
theorem isOk_parse (name name' text : String) :
    (SourceFile.parse name text).value.isOk = (SourceFile.parse name' text).value.isOk := by
  unfold SourceFile.parse
  dsimp only
  split <;> rfl

/-- An empty file has no classes, and nothing is logged about it. -/
theorem parse_empty (name : String) : SourceFile.parse name "" = ⟨[], .ok ⟨name, []⟩⟩ := by
  have hscan : Token.scan "" = [] := by
    rw [Token.scan, String.toList_empty, Token.scanFrom]
    rfl
  have hdeclarations : Declaration.parseDeclarations [] = ⟨[], .ok []⟩ := by
    rw [Declaration.parseDeclarations]
  rw [SourceFile.parse, hscan, show Terminal.ofTokens [] = [] from rfl, hdeclarations]

theorem readSource_of_empty {path : String} (h : tree.readText path = .ok "") :
    readSource tree path = ⟨[], .ok (some ⟨path, []⟩)⟩ := by
  rw [readSource, h]
  dsimp only
  rw [parse_empty]
  rfl

theorem value_readSource_of_isRejected {path : String} (h : isRejected tree path = true) :
    (readSource tree path).value = .ok none := by
  unfold isRejected at h
  unfold readSource
  cases htext : tree.readText path with
  | error e => rw [htext] at h; cases h
  | ok text =>
    rw [htext] at h
    dsimp only at h ⊢
    rw [Logged.value_bind, Logged.mapEvents]
    cases hparse : (SourceFile.parse path text).value with
    | ok file => rw [hparse] at h; cases h
    | error e => rfl

/-- All that is logged while a file is read is about this file. -/
theorem isAbout_of_mem_readSource {path : String} {event : Event}
    (h : event ∈ (readSource tree path).events) : event.isAbout path = true := by
  unfold readSource at h
  cases htext : tree.readText path with
  | error e => rw [htext] at h; cases h
  | ok text =>
    rw [htext] at h
    dsimp only at h
    rw [Logged.events_bind, List.mem_append] at h
    rcases h with hremark | hskipped
    · obtain ⟨remark, -, rfl⟩ := List.mem_map.1 hremark
      exact beq_self_eq_true path
    · split at hskipped
      · cases hskipped
      · rw [Logged.events_bind, Logged.events_pure, List.append_nil] at hskipped
        rw [List.mem_singleton.1 hskipped]
        exact beq_self_eq_true path

/-- The events that are not about one of these files. -/
def logWithout (dropped : List String) (events : List Event) : List Event :=
  events.filter fun event => !dropped.any fun path => event.isAbout path

theorem logWithout_append (events more : List Event) :
    logWithout dropped (events ++ more) = logWithout dropped events ++ logWithout dropped more :=
  List.filter_append _ _

theorem logWithout_readSource_of_mem {path : String} (h : path ∈ dropped) :
    logWithout dropped (readSource tree path).events = [] := by
  refine List.filter_eq_nil_iff.2 fun event hevent => ?_
  simpa using ⟨path, h, isAbout_of_mem_readSource hevent⟩

theorem logWithout_readSource_of_notMem {path : String} (h : path ∉ dropped) :
    logWithout dropped (readSource tree path).events = (readSource tree path).events := by
  refine List.filter_eq_self.2 fun event hevent => ?_
  simp only [Bool.not_eq_true', List.any_eq_false]
  intro path' hpath' habout
  exact h (Event.isAbout_unique (isAbout_of_mem_readSource hevent) habout ▸ hpath')

/-- The files that declare a class. -/
def withClasses (files : List SourceFile) : List SourceFile :=
  files.filter fun file => !file.classes.isEmpty

theorem map_append_withClasses (files : List SourceFile)
    (result : Except Failure (List SourceFile)) :
    (result.map (files ++ ·)).map withClasses =
      (result.map withClasses).map (withClasses files ++ ·) := by
  cases result with
  | error failure => rfl
  | ok more => exact congrArg Except.ok (List.filter_append _ _)

theorem readSources_cons_ok {path : String} {paths : List String} {file : Option SourceFile}
    (h : (readSource tree path).value = .ok file) :
    readSources tree (path :: paths) =
      ⟨(readSource tree path).events ++ (readSources tree paths).events,
        (readSources tree paths).value.map (file.toList ++ ·)⟩ := by
  rw [readSources]
  simp only [bind, h]
  cases (readSources tree paths).value <;> simp [pure, Except.map]

theorem readSources_cons_error {path : String} {paths : List String} {failure : Failure}
    (h : (readSource tree path).value = .error failure) :
    readSources tree (path :: paths) = ⟨(readSource tree path).events, .error failure⟩ := by
  rw [readSources]
  simp only [bind, h]
  simp [pure]

/-- Rejected files can be emptied: the same files with classes are read, or the same one cannot be
read, and all that is lost from the log is about the rejected files. -/
theorem readSources_emptied {paths : List String}
    (hempty : ∀ path ∈ paths, path ∈ dropped →
      isRejected tree path = true ∧ other.readText path = .ok "")
    (hsame : ∀ path ∈ paths, path ∉ dropped → other.readText path = tree.readText path) :
    (readSources other paths).events = logWithout dropped (readSources tree paths).events ∧
      (readSources other paths).value.map withClasses =
        (readSources tree paths).value.map withClasses := by
  induction paths with
  | nil => exact ⟨rfl, rfl⟩
  | cons path paths ih =>
    obtain ⟨hevents, hvalue⟩ := ih (fun p hp => hempty p (List.mem_cons_of_mem _ hp))
      (fun p hp => hsame p (List.mem_cons_of_mem _ hp))
    by_cases hpath : path ∈ dropped
    · obtain ⟨hrejected, hread⟩ := hempty path List.mem_cons_self hpath
      have hnew := readSource_of_empty hread
      rw [readSources_cons_ok (value_readSource_of_isRejected hrejected),
        readSources_cons_ok (congrArg Logged.value hnew), hnew]
      refine ⟨?_, ?_⟩
      · rw [logWithout_append, logWithout_readSource_of_mem hpath, hevents]
      · exact (map_append_withClasses [⟨path, []⟩] _).trans
          ((congrArg _ hvalue).trans (map_append_withClasses [] _).symm)
    · have hread : readSource other path = readSource tree path := by
        rw [readSource, readSource, hsame path List.mem_cons_self hpath]
      cases hfirst : (readSource tree path).value with
      | error failure =>
        rw [readSources_cons_error hfirst, readSources_cons_error (hread ▸ hfirst), hread]
        exact ⟨(logWithout_readSource_of_notMem hpath).symm, rfl⟩
      | ok file =>
        rw [readSources_cons_ok hfirst, readSources_cons_ok (hread ▸ hfirst), hread]
        refine ⟨?_, ?_⟩
        · rw [logWithout_append, logWithout_readSource_of_notMem hpath, hevents]
        · exact (map_append_withClasses _ _).trans
            ((congrArg _ hvalue).trans (map_append_withClasses _ _).symm)

end Reading

/-! ## Emptied files -/

section Emptied

variable {tree : FileTree} {args : List String} {arguments : Arguments}

theorem readText_congr {path path' : String} (h : tree.locate path = tree.locate path') :
    tree.readText path = tree.readText path' := by
  rw [FileTree.readText, h, FileTree.readText]

theorem isRejected_of_mem {path : String} (h : path ∈ rejected tree args) :
    isRejected tree path = true := by
  unfold rejected at h
  split at h
  · cases h
  · exact (List.mem_filter.1 h).2

theorem readText_emptyRejected_of_mem {path : String} (h : path ∈ rejected tree args) :
    (emptyRejected tree args).readText path = .ok "" := by
  have hrejected := isRejected_of_mem h
  unfold isRejected at hrejected
  split at hrejected
  case h_1 => cases hrejected
  case h_2 text htext =>
    obtain ⟨location, hlocation, hfile⟩ := bind_eq_ok_iff.1 htext
    unfold emptyRejected
    rw [FileTree.readText, FileTree.locate_mapFiles, hlocation]
    simp only [bind, Except.bind]
    rw [FileTree.lookup_files_mapFiles]
    cases hbytes : tree.files.lookup location with
    | none => rw [hbytes] at hfile; cases hfile
    | some bytes =>
      rw [Option.map_some, if_pos ⟨path, h, by rw [hlocation]; rfl⟩]
      rfl

/-- Another file keeps its text: at the location of a rejected file it would be rejected too. -/
theorem readText_emptyRejected_of_notMem (hargs : Arguments.parse args = some arguments)
    {path : String} (hpath : path ∈ selected tree arguments.inputs)
    (h : path ∉ rejected tree args) :
    (emptyRejected tree args).readText path = tree.readText path := by
  unfold emptyRejected
  rw [FileTree.readText, FileTree.locate_mapFiles]
  cases hlocation : tree.locate path with
  | error e => rw [FileTree.readText, hlocation]; rfl
  | ok location =>
    have hkept : ¬ ∃ path' ∈ rejected tree args,
        (tree.locate path').toOption = some location := by
      rintro ⟨path', hpath', hsame⟩
      have hlocate : tree.locate path = tree.locate path' := by
        rw [hlocation]
        cases hother : tree.locate path' with
        | error e => rw [hother] at hsame; cases hsame
        | ok location' => rw [hother] at hsame; cases hsame; rfl
      have hrejected : isRejected tree path = true := by
        have hrejected' := isRejected_of_mem hpath'
        unfold isRejected at hrejected' ⊢
        rw [readText_congr hlocate]
        cases htext : tree.readText path' with
        | error e => rw [htext] at hrejected'; cases hrejected'
        | ok text =>
          rw [htext] at hrejected'
          dsimp only at hrejected' ⊢
          rw [isOk_parse path path', hrejected']
      refine h ?_
      rw [rejected, hargs]
      exact List.mem_filter.2 ⟨hpath, hrejected⟩
    simp only [bind, Except.bind]
    rw [FileTree.lookup_files_mapFiles, FileTree.readText, hlocation]
    cases hbytes : tree.files.lookup location with
    | none => rw [ok_bind, hbytes]; rfl
    | some bytes => rw [ok_bind, hbytes, Option.map_some, if_neg hkept]

/-- A file without classes leaves the registry as it is. -/
theorem build_withClasses (program : List SourceFile) {options : Options}
    (hfiles : options.files = []) :
    Registry.build (withClasses program) options = Registry.build program options := by
  have hfold : ∀ registry, (withClasses program).foldlM (Registry.addFile options) registry =
      program.foldlM (Registry.addFile options) registry := by
    induction program with
    | nil => intro registry; rfl
    | cons file program ih =>
      intro registry
      have hincludes : options.includes file.name = true := by
        rw [Options.includes, hfiles]; rfl
      cases hclasses : file.classes with
      | nil =>
        have hskip : withClasses (file :: program) = withClasses program := by
          simp [withClasses, hclasses]
        have hadd : Registry.addFile options registry file = pure registry := by
          rw [Registry.addFile, if_pos hincludes, hclasses]; rfl
        rw [hskip, List.foldlM_cons, hadd]
        exact ih registry
      | cons decl rest =>
        have hkeep : withClasses (file :: program) = file :: withClasses program := by
          simp [withClasses, hclasses]
        rw [hkeep, List.foldlM_cons, List.foldlM_cons]
        exact congrArg _ (funext ih)
  rw [Registry.build, Registry.build, hfold]

theorem document_withClasses (program : List SourceFile) {options : Options}
    (hfiles : options.files = []) :
    Project.document (withClasses program) options = Project.document program options := by
  rw [Project.document, Project.document, build_withClasses program hfiles]

/-- Both runs have the same report or the same failure. -/
theorem reportText_emptyRejected (tree : FileTree) (hargs : Arguments.parse args = some arguments) :
    (reportText (emptyRejected tree args) arguments).value = (reportText tree arguments).value ∧
      ∃ before reading after,
        (reportText tree arguments).events = before ++ reading ++ after ∧
        (reportText (emptyRejected tree args) arguments).events =
          before ++ logWithout (rejected tree args) reading ++ after := by
  unfold reportText
  cases Format.ofName? arguments.format with
  | none => exact ⟨rfl, [], [], [], rfl, rfl⟩
  | some format =>
    dsimp only
    have hselect : selectFiles (emptyRejected tree args) arguments.inputs =
        selectFiles tree arguments.inputs := selectFiles_mapFiles _ _ _
    rw [hselect]
    simp only [Logged.value_bind, Logged.events_bind]
    rcases selectFiles_cases tree arguments.inputs with ⟨failure, hpaths, -⟩ | ⟨hpaths, -⟩
    · rw [hpaths]
      exact ⟨rfl, _, [], [], (List.append_nil _).symm, by simp [logWithout]⟩
    rw [hpaths]
    dsimp only
    simp only [Logged.value_bind, Logged.events_bind]
    have hempty : ∀ path ∈ selected tree arguments.inputs, path ∈ rejected tree args →
        isRejected tree path = true ∧ (emptyRejected tree args).readText path = .ok "" :=
      fun path _ hpath => ⟨isRejected_of_mem hpath, readText_emptyRejected_of_mem hpath⟩
    obtain ⟨hevents, hvalue⟩ := readSources_emptied hempty
      fun path hmem hpath => readText_emptyRejected_of_notMem hargs hmem hpath
    rw [hevents]
    have hassoc : ∀ a b c d : List Event, a ++ (b ++ (c ++ d)) = a ++ b ++ c ++ d := by simp
    cases hread : (readSources tree (selected tree arguments.inputs)).value with
    | error failure =>
      have hread' : (readSources (emptyRejected tree args)
          (selected tree arguments.inputs)).value = .error failure := by
        rw [hread] at hvalue
        cases hother : (readSources (emptyRejected tree args)
          (selected tree arguments.inputs)).value with
        | error other => rw [hother] at hvalue; cases hvalue; rfl
        | ok files => rw [hother] at hvalue; cases hvalue
      rw [hread']
      exact ⟨rfl, _, _, _, hassoc _ _ _ _, hassoc _ _ _ _⟩
    | ok program =>
      obtain ⟨files, hread', hfiles⟩ : ∃ files, (readSources (emptyRejected tree args)
          (selected tree arguments.inputs)).value = .ok files ∧
            withClasses files = withClasses program := by
        rw [hread] at hvalue
        exact map_eq_ok_iff.1 hvalue
      have hdocument : Project.document files arguments.options =
          Project.document program arguments.options := by
        have hincluded := files_options_of_parse hargs
        rw [← document_withClasses files hincluded, hfiles, document_withClasses _ hincluded]
      rw [hread']
      dsimp only
      rw [hdocument]
      simp only [Logged.value_bind, Logged.events_bind]
      exact ⟨trivial, _, _, _, hassoc _ _ _ _, hassoc _ _ _ _⟩

/-- Writing the output changes both trees in the same way. -/
theorem writeOutput_mapFiles (tree : FileTree) (change : Location → ByteArray → ByteArray)
    (path text : String) :
    ∃ later later' failure directories written,
      writeOutput tree path text = (later, failure) ∧
      writeOutput (tree.mapFiles change) path text = (later', failure) ∧
      tree.ChangesTo later directories written ∧
      (tree.mapFiles change).ChangesTo later' directories written := by
  unfold writeOutput
  dsimp only
  have hgrows := tree.growsTo_ensureDirectories (Path.parentPieces (Path.pieces path))
  have hgrows' := (tree.mapFiles change).growsTo_ensureDirectories
    (Path.parentPieces (Path.pieces path))
  rw [FileTree.ensureDirectories_mapFiles] at hgrows' ⊢
  generalize tree.ensureDirectories (Path.parentPieces (Path.pieces path)) = result
    at hgrows hgrows' ⊢
  obtain ⟨made, failure⟩ := result
  dsimp only at hgrows hgrows' ⊢
  cases failure with
  | some e =>
    exact ⟨_, _, _, made.directories, none, rfl, rfl, ⟨hgrows.files, rfl, hgrows.workdir⟩,
      ⟨hgrows'.files, rfl, hgrows'.workdir⟩⟩
  | none =>
    dsimp only
    cases hwrite : made.writeFile path text.toUTF8 with
    | ok written =>
      obtain ⟨location, hwrites, rfl⟩ := FileTree.writeFile_eq_ok_iff.1 hwrite
      have hwrites' := (FileTree.writesTo_mapFiles_iff made change).2 hwrites
      rw [FileTree.writeFile_eq_ok_iff.2 ⟨location, hwrites', rfl⟩]
      refine ⟨_, _, none, made.directories, some (location, text.toUTF8), rfl, rfl,
        ⟨?_, rfl, hgrows.workdir⟩, ⟨?_, rfl, hgrows'.workdir⟩⟩
      · rw [← hgrows.files]
        rfl
      · rw [← hgrows'.files]
        rfl
    | error e =>
      rw [FileTree.writeFile_mapFiles_error made change hwrite]
      exact ⟨_, _, _, made.directories, none, rfl, rfl, ⟨hgrows.files, rfl, hgrows.workdir⟩,
        ⟨hgrows'.files, rfl, hgrows'.workdir⟩⟩

end Emptied

/-! ## Runs -/

/-- The outcomes of runs on two trees agree in all but the log, and there in all but the events
about these files. -/
structure SameButLog (tree tree' : FileTree) (dropped : List String) (outcome outcome' : Outcome) :
    Prop where
  exitCode : outcome'.exitCode = outcome.exitCode
  stdout : outcome'.stdout = outcome.stdout
  /-- The same directories are created and the same file is written. -/
  changes : ∃ directories written, tree.ChangesTo outcome.tree directories written ∧
    tree'.ChangesTo outcome'.tree directories written
  /-- The error output is the log and then the failure, if there is one. -/
  stderr : ∃ (verbosity : Nat) (before reading after : List Event) (failure : Option Failure),
    (outcome.exitCode = 1 ↔ failure.isSome = true) ∧
    outcome.stderr = toLines
      (logLines verbosity (before ++ reading ++ after) ++ failure.toList.map Failure.text) ∧
    outcome'.stderr = toLines
      (logLines verbosity (before ++ logWithout dropped reading ++ after) ++
        failure.toList.map Failure.text)

section SameButLog

variable {tree tree' later later' : FileTree} {directories : List Location}
  {written : Option (Location × ByteArray)} (dropped : List String) (verbosity : Nat)
  (before reading after : List Event)

theorem sameButLog_failed (hlater : tree.ChangesTo later directories written)
    (hlater' : tree'.ChangesTo later' directories written) (failure : Failure) :
    SameButLog tree tree' dropped
      (.failed (logLines verbosity (before ++ reading ++ after)) failure later)
      (.failed (logLines verbosity (before ++ logWithout dropped reading ++ after)) failure
        later') where
  exitCode := rfl
  stdout := rfl
  changes := ⟨directories, written, hlater, hlater'⟩
  stderr := ⟨verbosity, before, reading, after, some failure, by simp [Outcome.failed], rfl, rfl⟩

theorem sameButLog_succeeded (hlater : tree.ChangesTo later directories written)
    (hlater' : tree'.ChangesTo later' directories written) (stdout : String) :
    SameButLog tree tree' dropped
      (.succeeded (logLines verbosity (before ++ reading ++ after)) stdout later)
      (.succeeded (logLines verbosity (before ++ logWithout dropped reading ++ after)) stdout
        later') where
  exitCode := rfl
  stdout := rfl
  changes := ⟨directories, written, hlater, hlater'⟩
  stderr := ⟨verbosity, before, reading, after, none, by simp [Outcome.succeeded],
    by simp [Outcome.succeeded], by simp [Outcome.succeeded]⟩

end SameButLog

/-- A selected file that cannot be parsed has no effect beyond the log: emptying all of them keeps
the exit code, what is printed, what is written and the failure, and only events about these files
are lost from the log. -/
theorem run_emptyRejected (tree : FileTree) (args : List String) :
    SameButLog tree (emptyRejected tree args) (rejected tree args) (run tree args)
      (run (emptyRejected tree args) args) := by
  have hsame : tree.ChangesTo tree tree.directories none := ⟨rfl, rfl, rfl⟩
  have hsame' : (emptyRejected tree args).ChangesTo (emptyRejected tree args) tree.directories none :=
    ⟨rfl, rfl, rfl⟩
  cases hargs : Arguments.parse args with
  | none =>
    rw [run, run, hargs]
    exact ⟨rfl, rfl, ⟨_, _, hsame, hsame'⟩, 0, [], [], [], none, by simp [Outcome.usageError],
      rfl, rfl⟩
  | some arguments =>
    obtain ⟨hvalue, before, reading, after, hevents, hevents'⟩ :=
      reportText_emptyRejected tree hargs
    rw [run, run, hargs]
    simp only [perform]
    rw [hvalue, hevents, hevents']
    cases (reportText tree arguments).value with
    | error failure => exact sameButLog_failed _ _ _ _ _ hsame hsame' failure
    | ok text =>
      cases arguments.output with
      | none => exact sameButLog_succeeded _ _ _ _ _ hsame hsame' text
      | some path =>
        obtain ⟨later, later', failure, directories, written, hwrite, hwrite', hlater, hlater'⟩ :
            ∃ later later' failure directories written,
              writeOutput tree path text = (later, failure) ∧
              writeOutput (emptyRejected tree args) path text = (later', failure) ∧
              tree.ChangesTo later directories written ∧
              (emptyRejected tree args).ChangesTo later' directories written :=
          writeOutput_mapFiles tree _ path text
        dsimp only
        rw [hwrite, hwrite']
        cases failure with
        | none => exact sameButLog_succeeded _ _ _ _ _ hlater hlater' ""
        | some failure => exact sameButLog_failed _ _ _ _ _ hlater hlater' failure

example :
    rejected (FileTree.empty.withFile "a.ts" "class A \x7b".toUTF8) ["a.ts"] = ["a.ts"] := by
  decide +kernel

end CommandLine

end ComponentDocs
