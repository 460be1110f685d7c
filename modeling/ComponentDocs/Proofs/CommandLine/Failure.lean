import ComponentDocs.CommandLine.Run
import ComponentDocs.Proofs.Assembly
import ComponentDocs.Proofs.CommandLine.Arguments
import ComponentDocs.Proofs.Files.Path
import ComponentDocs.Proofs.Files.Tree

/-!
# Runs that fail

What a run works on is said without the order of its work: the files that the inputs stand for
(`selected`), those of them that can be parsed (`parsed`), and what makes the run fail (`Fails`).
Each stage is inverted once: it stops with a failure only for one of these reasons, and otherwise
hands on all of its result (`selectFiles_cases`, `readSources_cases`, `document_cases`,
`writeOutput_cases`).  From this a run fails exactly for one of the reasons, and then writes
nothing.
-/

namespace ComponentDocs.CommandLine

variable {tree : FileTree} {arguments : Arguments}

/-! ## What a run works on -/

/-- An input that is no file and whose pattern cannot be read. -/
def InvalidInput (tree : FileTree) (input : String) : Prop :=
  tree.isFile input = false ∧ ∃ e, Glob.Pattern.parse (inputPattern tree input) = .error e

/-- The files that an input stands for; an invalid one stands for none. -/
def inputFiles (tree : FileTree) (input : String) : List String :=
  if tree.isFile input then [input]
  else
    match Glob.Pattern.parse (inputPattern tree input) with
    | .error _ => []
    | .ok pattern => (Glob.files tree pattern).filter (Path.hasExtension "ts")

/-- The files that the inputs stand for, in path order and each once. -/
def selected (tree : FileTree) (inputs : List String) : List String :=
  Path.dropRepeats (Path.sort (inputs.flatMap (inputFiles tree)))

/-- The file at a path, if it can be read and parsed. -/
def parsed? (tree : FileTree) (path : String) : Option SourceFile := do
  let text ← (tree.readText path).toOption
  (SourceFile.parse path text).value.toOption

/-- The selected files that can be read and parsed. -/
def parsed (tree : FileTree) (inputs : List String) : List SourceFile :=
  (selected tree inputs).filterMap (parsed? tree)

/-- The directories above a path can be created, and the path can then be written. -/
def Writable (tree : FileTree) (path : String) : Prop :=
  ∃ made location, tree.ensureDirectories (Path.parentPieces (Path.pieces path)) = (made, none) ∧
    made.WritesTo path location

/-- Why a run fails. -/
inductive Fails (tree : FileTree) (arguments : Arguments) : Prop
  | unknownFormat (hformat : arguments.format ∉ ["json", "markdown", "md"])
  | invalidInput {input : String} (hinput : input ∈ arguments.inputs)
      (hinvalid : InvalidInput tree input)
  | notText {path : String} (hpath : path ∈ selected tree arguments.inputs)
      (hread : tree.readText path = .error .notText)
  | cyclic {registry : Registry} {info : ClassInfo} {i j : Nat}
      (hregistry : (Registry.build (parsed tree arguments.inputs) arguments.options).value =
        registry)
      (hinfo : info ∈ registry.classes.values) (hdocumented : info.isDocumented = true)
      (hcycle : registry.Revisits info.name i j)
  | unwritable {path : String} (houtput : arguments.output = some path)
      (hwritable : ¬ Writable tree path)

/-- The text is the report on the selected files that can be parsed, in the given format. -/
def IsReport (tree : FileTree) (arguments : Arguments) (text : String) : Prop :=
  ∃ format project, Format.ofName? arguments.format = some format ∧
    (Project.document (parsed tree arguments.inputs) arguments.options).value = .ok project ∧
    text = (Report.ofProject project arguments.urlPrefix).text format

/-! ## Selected files -/

theorem of_mem_inputFiles {path input : String} (h : path ∈ inputFiles tree input) :
    tree.isFile path = true ∧ (path = input ∨ Path.hasExtension "ts" path = true) := by
  unfold inputFiles at h
  split at h
  next hfile =>
    cases List.mem_singleton.1 h
    exact ⟨hfile, .inl rfl⟩
  next =>
    split at h
    next => cases h
    next pattern _ =>
      obtain ⟨hfound, hextension⟩ := List.mem_filter.1 h
      refine ⟨?_, .inr hextension⟩
      rw [Glob.files] at hfound
      split at hfound
      · cases hfound
      · exact (List.mem_filter.1 hfound).2

theorem isFile_of_mem_selected {inputs : List String} {path : String}
    (h : path ∈ selected tree inputs) : tree.isFile path = true := by
  obtain ⟨input, -, hfiles⟩ := List.mem_flatMap.1 (Path.mem_of_mem_dropRepeats_sort h)
  exact (of_mem_inputFiles hfiles).1

/-! ## Stages -/

theorem ofName?_eq_none_iff {name : String} :
    Format.ofName? name = none ↔ name ∉ ["json", "markdown", "md"] := by
  unfold Format.ofName?
  split <;> simp_all

theorem selectInput_cases (tree : FileTree) (input : String) :
    (∃ failure, (selectInput tree input).value = .error failure ∧ InvalidInput tree input) ∨
      ((selectInput tree input).value = .ok (inputFiles tree input) ∧
        ¬ InvalidInput tree input) := by
  unfold selectInput inputFiles InvalidInput
  cases hfile : tree.isFile input with
  | true => exact .inr ⟨rfl, by simp⟩
  | false =>
    rw [if_neg (by simp), if_neg (by simp)]
    dsimp only
    cases hpattern : Glob.Pattern.parse (inputPattern tree input) with
    | error e => exact .inl ⟨_, rfl, rfl, e, rfl⟩
    | ok pattern => exact .inr ⟨rfl, by simp⟩

theorem collectInputs_cases (tree : FileTree) (inputs : List String) :
    (∃ failure, (collectInputs tree inputs).value = .error failure ∧
        ∃ input ∈ inputs, InvalidInput tree input) ∨
      ((collectInputs tree inputs).value = .ok (inputs.flatMap (inputFiles tree)) ∧
        ∀ input ∈ inputs, ¬ InvalidInput tree input) := by
  induction inputs with
  | nil => exact .inr ⟨rfl, by simp⟩
  | cons input inputs ih =>
    rw [collectInputs, Logged.value_bind]
    rcases selectInput_cases tree input with ⟨failure, hvalue, hinvalid⟩ | ⟨hvalue, hvalid⟩
    · rw [hvalue]
      exact .inl ⟨failure, rfl, input, List.mem_cons_self, hinvalid⟩
    · rw [hvalue]
      dsimp only
      rw [Logged.value_bind]
      rcases ih with ⟨failure, hrest, other, hother, hinvalid⟩ | ⟨hrest, hothers⟩
      · rw [hrest]
        exact .inl ⟨failure, rfl, other, List.mem_cons_of_mem _ hother, hinvalid⟩
      · rw [hrest, List.flatMap_cons]
        exact .inr ⟨rfl, List.forall_mem_cons.2 ⟨hvalid, hothers⟩⟩

/-- Either an input is invalid, or all files are selected. -/
theorem selectFiles_cases (tree : FileTree) (inputs : List String) :
    (∃ failure, (selectFiles tree inputs).value = .error failure ∧
        ∃ input ∈ inputs, InvalidInput tree input) ∨
      ((selectFiles tree inputs).value = .ok (selected tree inputs) ∧
        ∀ input ∈ inputs, ¬ InvalidInput tree input) := by
  rw [selectFiles, Logged.value_bind]
  rcases collectInputs_cases tree inputs with ⟨failure, hvalue, hinvalid⟩ | ⟨hvalue, hvalid⟩
  · rw [hvalue]
    exact .inl ⟨failure, rfl, hinvalid⟩
  · rw [hvalue]
    exact .inr ⟨rfl, hvalid⟩

theorem readSource_cases (tree : FileTree) (path : String) :
    (∃ failure e, (readSource tree path).value = .error failure ∧
        tree.readText path = .error e) ∨
      ((readSource tree path).value = .ok (parsed? tree path) ∧
        ∀ e, tree.readText path ≠ .error e) := by
  unfold readSource parsed?
  cases htext : tree.readText path with
  | error e => exact .inl ⟨_, e, rfl, rfl⟩
  | ok text =>
    refine .inr ⟨?_, by simp⟩
    dsimp only [Except.toOption, Option.bind_eq_bind, Option.bind_some]
    rw [Logged.value_bind, Logged.mapEvents]
    cases (SourceFile.parse path text).value <;> rfl

/-- Either a file cannot be read, or all files that can be parsed are. -/
theorem readSources_cases (tree : FileTree) (paths : List String) :
    (∃ failure, (readSources tree paths).value = .error failure ∧
        ∃ path ∈ paths, ∃ e, tree.readText path = .error e) ∨
      ((readSources tree paths).value = .ok (paths.filterMap (parsed? tree)) ∧
        ∀ path ∈ paths, ∀ e, tree.readText path ≠ .error e) := by
  induction paths with
  | nil => exact .inr ⟨rfl, by simp⟩
  | cons path paths ih =>
    rw [readSources, Logged.value_bind]
    rcases readSource_cases tree path with ⟨failure, e, hvalue, hread⟩ | ⟨hvalue, hread⟩
    · rw [hvalue]
      exact .inl ⟨failure, rfl, path, List.mem_cons_self, e, hread⟩
    · rw [hvalue]
      dsimp only
      rw [Logged.value_bind]
      rcases ih with ⟨failure, hrest, other, hother, hunread⟩ | ⟨hrest, hothers⟩
      · rw [hrest]
        exact .inl ⟨failure, rfl, other, List.mem_cons_of_mem _ hother, hunread⟩
      · rw [hrest, List.filterMap_cons]
        refine .inr ⟨?_, List.forall_mem_cons.2 ⟨hread, hothers⟩⟩
        cases parsed? tree path <;> rfl

/-! ## Reports -/

/-- Documenting fails exactly for a cycle above a documented component. -/
theorem document_cases (program : List SourceFile) (options : Options) :
    (∃ cycle, (Project.document program options).value = .error cycle ∧
        ∃ info ∈ (Registry.build program options).value.classes.values,
          info.isDocumented = true ∧
            ∃ i j, (Registry.build program options).value.Revisits info.name i j) ∨
      ∃ project, (Project.document program options).value = .ok project ∧
        ∀ info ∈ (Registry.build program options).value.classes.values,
          info.isDocumented = true →
            ∀ i j, ¬ (Registry.build program options).value.Revisits info.name i j := by
  have houtcome := Project.outcome_document program options
  generalize (Project.document program options).value = result at houtcome
  cases houtcome with
  | cyclic hinfo hdocumented hanswer =>
    exact .inl ⟨_, rfl, _, hinfo, hdocumented, (Registry.answer_error_iff _ _ _).1 ⟨_, hanswer⟩⟩
  | documented hanswers =>
    refine .inr ⟨_, rfl, fun info hinfo hdocumented => ?_⟩
    obtain ⟨api, hanswer⟩ := hanswers info hinfo hdocumented
    exact Registry.not_revisits_of_answer hanswer

/-- Either there is a reason to fail before anything is written, or there is a report and the only
reason left is the output path. -/
theorem reportText_cases (tree : FileTree) (arguments : Arguments) :
    (∃ failure, (reportText tree arguments).value = .error failure ∧ Fails tree arguments) ∨
      ∃ text, (reportText tree arguments).value = .ok text ∧ IsReport tree arguments text ∧
        ((∀ path, arguments.output = some path → Writable tree path) → ¬ Fails tree arguments) := by
  unfold reportText
  cases hformat : Format.ofName? arguments.format with
  | none => exact .inl ⟨_, rfl, .unknownFormat (ofName?_eq_none_iff.1 hformat)⟩
  | some format =>
    dsimp only
    rw [Logged.value_bind]
    rcases selectFiles_cases tree arguments.inputs with
      ⟨failure, hselect, input, hinput, hinvalid⟩ | ⟨hselect, hvalid⟩
    · rw [hselect]
      exact .inl ⟨failure, rfl, .invalidInput hinput hinvalid⟩
    rw [hselect]
    dsimp only
    rw [Logged.value_bind, Logged.value_bind]
    rcases readSources_cases tree (selected tree arguments.inputs) with
      ⟨failure, hread, path, hpath, e, hunread⟩ | ⟨hread, hreadable⟩
    · rw [hread]
      refine .inl ⟨failure, rfl, ?_⟩
      rcases FileTree.readText_of_isFile (isFile_of_mem_selected hpath) with ⟨text, htext⟩ | htext
      · rw [htext] at hunread
        cases hunread
      · exact .notText hpath htext
    rw [hread]
    dsimp only
    rw [Logged.value_bind]
    rcases document_cases (parsed tree arguments.inputs) arguments.options with
      ⟨cycle, hdocument, info, hinfo, hdocumented, i, j, hcycle⟩ | ⟨project, hdocument, hacyclic⟩
    · rw [← parsed, hdocument]
      exact .inl ⟨_, rfl, .cyclic rfl hinfo hdocumented hcycle⟩
    rw [← parsed, hdocument]
    refine .inr ⟨_, rfl, ⟨format, project, hformat, hdocument, rfl⟩, fun houtput hfails => ?_⟩
    cases hfails with
    | unknownFormat hname => rw [ofName?_eq_none_iff.2 hname] at hformat; cases hformat
    | invalidInput hinput hinvalid => exact absurd hinvalid (hvalid _ hinput)
    | notText hpath hunread => exact absurd hunread (hreadable _ hpath _)
    | cyclic hregistry hinfo hdocumented hcycle =>
      subst hregistry
      exact absurd hcycle (hacyclic _ hinfo hdocumented _ _)
    | unwritable hpath hwritable => exact hwritable (houtput _ hpath)

/-! ## Output -/

/-- Writing the output fails exactly when the path is not writable, and then no file changes. -/
theorem writeOutput_cases (tree : FileTree) (path text : String) :
    (∃ left failure, writeOutput tree path text = (left, some failure) ∧
        ¬ Writable tree path ∧ tree.GrowsTo left) ∨
      ∃ (made : FileTree) (location : Location) (h : made.WritesTo path location),
        writeOutput tree path text =
          (made.setFile location text.toUTF8 h.isPlace h.notDirectory, none) ∧
        Writable tree path ∧ tree.GrowsTo made := by
  unfold writeOutput Writable
  have hgrows := tree.growsTo_ensureDirectories (Path.parentPieces (Path.pieces path))
  rcases hmade : tree.ensureDirectories (Path.parentPieces (Path.pieces path)) with ⟨made, failure⟩
  rw [hmade] at hgrows
  dsimp only
  rw [hmade]
  cases failure with
  | some e => exact .inl ⟨_, _, rfl, by simp, hgrows⟩
  | none =>
    dsimp only
    cases hwrite : made.writeFile path text.toUTF8 with
    | error e =>
      refine .inl ⟨_, _, rfl, ?_, hgrows⟩
      rintro ⟨other, location, hother, hwrites⟩
      cases hother
      rw [FileTree.writeFile_eq_ok_iff.2 ⟨location, hwrites, rfl⟩] at hwrite
      cases hwrite
    | ok written =>
      obtain ⟨location, hwrites, rfl⟩ := FileTree.writeFile_eq_ok_iff.1 hwrite
      exact .inr ⟨made, location, hwrites, rfl, ⟨made, location, rfl, hwrites⟩, hgrows⟩

/-- A run with arguments that are understood fails exactly for one of five reasons: its format is
unknown, an input is invalid, a selected file is no text, the ancestors of a documented component
form a cycle, or its output path cannot be written.  A run that fails prints nothing and leaves all
files as they are.  Any other run ends well, and the whole report goes to the output path if there
is one, and is printed otherwise. -/
theorem run_fails_iff (tree : FileTree) {args : List String} {arguments : Arguments}
    (hargs : Arguments.parse args = some arguments) :
    let outcome := run tree args
    (outcome.exitCode = 1 ↔ Fails tree arguments) ∧
      (Fails tree arguments → outcome.stdout = "" ∧ tree.GrowsTo outcome.tree) ∧
      (¬ Fails tree arguments → outcome.exitCode = 0 ∧
        ∃ text, IsReport tree arguments text ∧
          (arguments.output = none → outcome.stdout = text ∧ outcome.tree = tree) ∧
          ∀ path, arguments.output = some path → outcome.stdout = "" ∧
            outcome.tree.workdir = tree.workdir ∧
            ∃ location, outcome.tree.locate path = .ok location ∧
              ∀ other, outcome.tree.files.lookup other =
                if other = location then some text.toUTF8 else tree.files.lookup other) := by
  intro outcome
  have houtcome : outcome = perform tree arguments := by
    simp only [outcome, run, hargs]
  rw [houtcome]
  unfold perform
  dsimp only
  rcases reportText_cases tree arguments with
    ⟨failure, hreport, hfails⟩ | ⟨text, hreport, htext, hends⟩
  · rw [hreport]
    exact ⟨⟨fun _ => hfails, fun _ => rfl⟩, fun _ => ⟨rfl, .refl tree⟩, fun h => absurd hfails h⟩
  rw [hreport]
  dsimp only
  cases houtput : arguments.output with
  | none =>
    have hgood : ¬ Fails tree arguments := hends fun path hpath => by
      rw [houtput] at hpath
      cases hpath
    refine ⟨⟨fun h => ?_, fun h => absurd h hgood⟩, fun h => absurd h hgood, fun _ =>
      ⟨rfl, text, htext, fun _ => ⟨rfl, rfl⟩, fun path => (nomatch ·)⟩⟩
    cases h
  | some path =>
    dsimp only
    rcases writeOutput_cases tree path text with
      ⟨left, failure, hwrite, hnot, hgrows⟩ | ⟨made, location, hwrites, hwrite, hcan, hgrows⟩
    · have hfails : Fails tree arguments := .unwritable houtput hnot
      rw [hwrite]
      exact ⟨⟨fun _ => hfails, fun _ => rfl⟩, fun _ => ⟨rfl, hgrows⟩, fun h => absurd hfails h⟩
    · have hgood : ¬ Fails tree arguments := hends fun other hother => by
        rw [houtput] at hother
        cases hother
        exact hcan
      rw [hwrite]
      refine ⟨⟨fun h => ?_, fun h => absurd h hgood⟩, fun h => absurd h hgood, fun _ =>
        ⟨rfl, text, htext, (nomatch ·), fun other hother =>
          ⟨rfl, hgrows.workdir, location, ?_, fun elsewhere => ?_⟩⟩⟩
      · cases h
      · cases hother
        exact hwrites.locate_setFile _
      · rw [← hgrows.files]
        exact FileTree.lookup_setBytes _ _ _ _

/-- The report on a component is written next to the working directory, and a component that is its
own ancestor makes a run fail. -/
theorem run_fails_iff_cycle :
    let tree := (FileTree.empty.withFile "chart.ts"
      "/** @component Chart */ @Component(\x7b\x7d) class Chart \x7b\x7d".toUTF8).withFile "loop.ts"
      "/** @component Loop */ @Component(\x7b\x7d) class Loop extends Loop \x7b\x7d".toUTF8
    let arguments := fun input : String =>
      (⟨[input], some "../docs/api.json", "json", "", Options.default, 0⟩ : Arguments)
    let done := run tree ["chart.ts", "-o", "../docs/api.json"]
    let failed := run tree ["loop.ts", "-o", "../docs/api.json"]
    (¬ Fails tree (arguments "chart.ts") ∧ done.exitCode = 0 ∧ done.stdout = "" ∧
        ∃ text, IsReport tree (arguments "chart.ts") text ∧
          done.tree.files.lookup ["docs", "api.json"] = some text.toUTF8) ∧
      Fails tree (arguments "loop.ts") ∧ failed.exitCode = 1 ∧ failed.stdout = "" ∧
        tree.GrowsTo failed.tree := by
  intro tree arguments done failed
  have hargs : Arguments.parse ["chart.ts", "-o", "../docs/api.json"] =
      some (arguments "chart.ts") := by decide +kernel
  have hargs' : Arguments.parse ["loop.ts", "-o", "../docs/api.json"] =
      some (arguments "loop.ts") := by decide +kernel
  obtain ⟨hexit, -, hgood⟩ := run_fails_iff tree hargs
  obtain ⟨hexit', hbad, -⟩ := run_fails_iff tree hargs'
  have hnot : ¬ Fails tree (arguments "chart.ts") := mt hexit.2 (by decide +kernel)
  have hcode : failed.exitCode = 1 := by decide +kernel
  have hfails : Fails tree (arguments "loop.ts") := hexit'.1 hcode
  obtain ⟨hdone, text, hreport, -, hwritten⟩ := hgood hnot
  obtain ⟨hstdout, -, location, hlocate, hlookup⟩ := hwritten _ rfl
  have hplace : done.tree.locate "../docs/api.json" = .ok ["docs", "api.json"] := by
    decide +kernel
  have hlocation : ["docs", "api.json"] = location := Except.ok.inj (hplace.symm.trans hlocate)
  refine ⟨⟨hnot, hdone, hstdout, text, hreport, ?_⟩, hfails, hcode, hbad hfails⟩
  rw [hlookup, if_pos hlocation]

end ComponentDocs.CommandLine
