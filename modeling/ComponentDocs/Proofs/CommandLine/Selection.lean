import ComponentDocs.Proofs.CommandLine.Failure
import ComponentDocs.Proofs.Files.Path

/-!
# Which files are selected

What is selected depends only on which arguments there are, and not on their order or on how often
each is given.  An argument is a file, a directory or a pattern, and the same file can be found
through several of them under paths that are spelled in different ways; which of the spellings is
kept depends on the order, so two selections are compared by path equality.
-/

namespace ComponentDocs.CommandLine

variable {tree : FileTree} {inputs others : List String}

/-- A selection is strictly increasing in path order, so it has no path twice, and each of its
paths is a file that is an input itself or is a TypeScript file. -/
structure IsSelection (tree : FileTree) (inputs paths : List String) : Prop where
  increasing : Path.Increasing paths
  isFile : ∀ path ∈ paths, tree.isFile path = true
  origin : ∀ path ∈ paths, path ∈ inputs ∨ Path.hasExtension "ts" path = true

theorem isSelection_selected (tree : FileTree) (inputs : List String) :
    IsSelection tree inputs (selected tree inputs) := by
  have hsource : ∀ path ∈ selected tree inputs,
      ∃ input ∈ inputs, path ∈ inputFiles tree input := fun path hpath =>
    List.mem_flatMap.1 (Path.mem_of_mem_dropRepeats_sort hpath)
  refine ⟨Path.increasing_dropRepeats_sort _, fun path hpath => ?_, fun path hpath => ?_⟩
  · exact isFile_of_mem_selected hpath
  · obtain ⟨input, hinput, hfiles⟩ := hsource path hpath
    refine (of_mem_inputFiles hfiles).2.imp_left ?_
    rintro rfl
    exact hinput

/-- The selected paths are, up to path equality, those that the inputs stand for. -/
theorem mem_map_parts_selected {path : List Path.Part} :
    path ∈ (selected tree inputs).map Path.parts ↔
      ∃ input ∈ inputs, path ∈ (inputFiles tree input).map Path.parts := by
  rw [selected, Path.mem_map_parts_dropRepeats_sort, List.map_flatMap, List.mem_flatMap]

/-- Two lists of the same arguments, each in any order and any number of times, both have an
invalid one, or select the same files path by path. -/
theorem selectFiles_sameInputs (tree : FileTree)
    (hinputs : ∀ input, input ∈ inputs ↔ input ∈ others) :
    ((∃ failure, (selectFiles tree inputs).value = .error failure) ∧
        ∃ failure, (selectFiles tree others).value = .error failure) ∨
      ∃ paths paths', (selectFiles tree inputs).value = .ok paths ∧
        (selectFiles tree others).value = .ok paths' ∧
        List.Forall₂ (fun path path' => Path.same path path' = true) paths paths' ∧
        IsSelection tree inputs paths ∧ IsSelection tree others paths' := by
  rcases selectFiles_cases tree inputs with
    ⟨failure, hpaths, input, hinput, hinvalid⟩ | ⟨hpaths, hvalid⟩
  · rcases selectFiles_cases tree others with ⟨failure', hpaths', -⟩ | ⟨-, hvalid'⟩
    · exact .inl ⟨⟨failure, hpaths⟩, failure', hpaths'⟩
    · exact absurd hinvalid (hvalid' input ((hinputs input).1 hinput))
  · rcases selectFiles_cases tree others with ⟨-, -, input, hinput, hinvalid⟩ | ⟨hpaths', -⟩
    · exact absurd hinvalid (hvalid input ((hinputs input).2 hinput))
    · have hselection := isSelection_selected tree inputs
      have hselection' := isSelection_selected tree others
      refine .inr ⟨_, _, hpaths, hpaths', ?_, hselection, hselection'⟩
      refine hselection.increasing.forall₂_same hselection'.increasing fun path => ?_
      simp only [mem_map_parts_selected, hinputs]

/-- Files that are found in path order need no sorting. -/
theorem selectFiles_of_collectInputs {paths : List String}
    (hcollect : (collectInputs tree inputs).value = .ok paths)
    (hsorted : paths.Pairwise fun a b => (Path.order a b).isLE = true) :
    (selectFiles tree inputs).value = .ok (Path.dropRepeats paths) := by
  rw [selectFiles, Logged.value_bind, hcollect]
  exact congrArg (fun paths => Except.ok (Path.dropRepeats paths)) (Path.sort_eq_self hsorted)

/-- A file that is given by its name and also found through its directory is selected once; the
spelling that comes first stays. -/
theorem selectFiles_sameInputs_spellings :
    let tree := (FileTree.empty.withFile "src/a.ts" .empty).withFile "notes.md" .empty
    let inputs := ["notes.md", "src", "src//a.ts"]
    let others := ["notes.md", "src//a.ts", "src", "src//a.ts"]
    let paths := ["notes.md", "src/a.ts"]
    let paths' := ["notes.md", "src//a.ts"]
    (selectFiles tree inputs).value = .ok paths ∧ (selectFiles tree others).value = .ok paths' ∧
      List.Forall₂ (fun path path' => Path.same path path' = true) paths paths' ∧
      IsSelection tree inputs paths ∧ IsSelection tree others paths' := by
  intro tree inputs others paths paths'
  have hcollect : (collectInputs tree inputs).value =
      .ok ["notes.md", "src/a.ts", "src//a.ts"] := by decide +kernel
  have hcollect' : (collectInputs tree others).value =
      .ok ["notes.md", "src//a.ts", "src/a.ts", "src//a.ts"] := by decide +kernel
  have hpaths : (selectFiles tree inputs).value = .ok paths :=
    selectFiles_of_collectInputs hcollect (by decide +kernel)
  have hpaths' : (selectFiles tree others).value = .ok paths' :=
    selectFiles_of_collectInputs hcollect' (by decide +kernel)
  have hinputs : ∀ input, input ∈ inputs ↔ input ∈ others := by
    intro input
    simp only [inputs, others, List.mem_cons, List.not_mem_nil, or_false]
    tauto
  rcases selectFiles_sameInputs tree hinputs with
    ⟨⟨failure, hfailure⟩, -⟩ | ⟨found, found', hfound, hfound', hsame⟩
  · rw [hpaths] at hfailure
    cases hfailure
  · rw [hpaths] at hfound
    rw [hpaths'] at hfound'
    cases hfound
    cases hfound'
    exact ⟨hpaths, hpaths', hsame⟩

end ComponentDocs.CommandLine
