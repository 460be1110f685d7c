import ComponentDocs.Proofs.Extension

/-!
# The order of files

Files are read in order, and the first declaration of a name counts.  Where no class is declared
twice and no class by two modules, there is no first and second, and the order of the files is the
order of the documentation and nothing else.

Two registries with the same classes in another order extend each other, so what was said about
extensions applies in both directions: lineages are the same (`Extends.answer_eq`).  The owner of a
name is the only module that declares it (`find?_eq_of_perm`).
-/

namespace ComponentDocs

namespace Registry

variable {registry other : Registry} {policy : OverridePolicy}

/-- The same answer in both of two registries that extend each other. -/
theorem Extends.answer_eq (h : registry.Extends other) (h' : other.Extends registry)
    {name : String} {api api' : Api} (hanswer : registry.answer policy name = .ok api)
    (hanswer' : other.answer policy name = .ok api') : api' = api := by
  obtain ⟨chain, hchain, rfl⟩ := exists_lineage_of_answer hanswer
  obtain ⟨chain', hchain', rfl⟩ := exists_lineage_of_answer hanswer'
  have hforth := h.lineage_mono hchain hchain'
  have hback := h'.lineage_mono hchain' hchain
  rw [hforth.eq_of_length_le hback.length_le]

theorem extends_of_perm (hentries : registry.classes.entries.Perm other.classes.entries) :
    registry.Extends other := by
  intro name info hinfo
  exact OrderedMap.get?_of_mem (hentries.mem_iff.1 (OrderedMap.mem_entries_of_get? hinfo))

/-! ## Registries of the same files -/

/-- At most one item of a list fits, so the order of the list does not matter for finding it. -/
theorem find?_eq_of_perm {α : Type} {p : α → Bool} {items others : List α}
    (hperm : items.Perm others)
    (hunique : ∀ a ∈ items, ∀ b ∈ items, p a = true → p b = true → a = b) :
    others.find? p = items.find? p := by
  cases hfound : items.find? p with
  | none =>
    rw [List.find?_eq_none] at hfound ⊢
    exact fun a ha => hfound a (hperm.mem_iff.2 ha)
  | some a =>
    have ha := List.mem_of_find?_eq_some hfound
    have hpa := List.find?_some hfound
    obtain ⟨b, hb⟩ := Option.isSome_iff_exists.1
      (List.find?_isSome.2 ⟨a, hperm.mem_iff.1 ha, hpa⟩)
    have hmem := hperm.mem_iff.2 (List.mem_of_find?_eq_some hb)
    rw [hb, hunique b hmem a ha (List.find?_some hb) hpa]

section

variable {program files : List SourceFile} {options : Options}

theorem declared_perm (hperm : program.Perm files) (options : Options) :
    (declared program options).Perm (declared files options) :=
  (hperm.filter _).flatMap_right _

/-- Without duplicates every class is a first one. -/
theorem firsts_perm (hperm : program.Perm files)
    (hnames : ((declared program options).map Declared.name).Nodup) :
    (firsts (declared program options)).Perm (firsts (declared files options)) := by
  have hdeclared := declared_perm hperm options
  rw [firsts_of_nodup hnames, firsts_of_nodup ((hdeclared.map _).nodup_iff.1 hnames)]
  exact hdeclared

theorem entries_build_perm (hperm : program.Perm files)
    (hnames : ((declared program options).map Declared.name).Nodup) :
    (build program options).value.classes.entries.Perm
      (build files options).value.classes.entries := by
  rw [(holds_build program options).entries, (holds_build files options).entries]
  exact (firsts_perm hperm hnames).map _

theorem moduleFor_build_perm (hperm : program.Perm files)
    (hnames : ((declared program options).map Declared.name).Nodup) {name : String}
    (hunique : ∀ module ∈ (build program options).value.modules,
      ∀ module' ∈ (build program options).value.modules,
      module.declares name = true → module'.declares name = true → module = module') :
    (build files options).value.moduleFor name = (build program options).value.moduleFor name := by
  have hmodules : (build program options).value.modules.Perm
      (build files options).value.modules := by
    rw [(holds_build program options).modules, (holds_build files options).modules]
    exact (firsts_perm hperm hnames).filterMap _
  rw [(consistent_build program options).owner, (consistent_build files options).owner]
  exact find?_eq_of_perm hmodules hunique

/-- The registered names are those that are declared. -/
theorem mem_names_of_mem_values {info : ClassInfo}
    (hinfo : info ∈ (build program options).value.classes.values) :
    info.name ∈ (declared program options).map Declared.name := by
  rw [← mem_name_firsts, ← (holds_build program options).keys,
    ← (consistent_build program options).map_name_values]
  exact List.mem_map_of_mem hinfo

end

end Registry

namespace Project

theorem docOf_eq {registry other : Registry} {policy : OverridePolicy}
    (h : registry.Extends other) (h' : other.Extends registry) {info : ClassInfo} {api api' : Api}
    (hmodule : other.moduleFor info.name = registry.moduleFor info.name)
    (hanswer : registry.answer policy info.name = .ok api)
    (hanswer' : other.answer policy info.name = .ok api') :
    docOf other policy info = docOf registry policy info := by
  rw [docOf, docOf, componentDoc, componentDoc, hmodule, hanswer, hanswer',
    h.answer_eq h' hanswer hanswer']

/-- The order of the files does not matter when names are unambiguous.  If no two classes of the
files that take part have the same name, and no such name is declared by two modules, then the files
in another order can be documented or cannot as well, and the documentation has the same components
and other classes in some order. -/
theorem document_perm {program files : List SourceFile} (options : Options)
    (hperm : program.Perm files)
    (hnames : ((Registry.declared program options).map Registry.Declared.name).Nodup)
    (hmodules : ∀ name ∈ (Registry.declared program options).map Registry.Declared.name,
      ∀ module ∈ (Registry.build program options).value.modules,
      ∀ module' ∈ (Registry.build program options).value.modules,
      module.declares name = true → module'.declares name = true → module = module') :
    (∃ cycle cycle', (document program options).value = .error cycle ∧
        (document files options).value = .error cycle') ∨
      ∃ project project', (document program options).value = .ok project ∧
        (document files options).value = .ok project' ∧
        project.components.Perm project'.components ∧
        project.others.entries.Perm project'.others.entries := by
  have hentries := Registry.entries_build_perm hperm hnames
  have hvalues : (Registry.build program options).value.classes.values.Perm
      (Registry.build files options).value.classes.values := hentries.map Prod.snd
  have hextends := Registry.extends_of_perm hentries
  have hextends' := Registry.extends_of_perm hentries.symm
  have houtcome := outcome_document program options
  have houtcome' := outcome_document files options
  cases hresult : (document program options).value with
  | error cycle =>
    cases hresult' : (document files options).value with
    | error cycle' => exact .inl ⟨cycle, cycle', rfl, rfl⟩
    | ok project' =>
      rw [hresult'] at houtcome'
      obtain ⟨project, hproject⟩ := houtcome.exists_ok hextends hvalues.subset houtcome'
      rw [hresult] at hproject
      cases hproject
  | ok project =>
    rw [hresult] at houtcome
    obtain ⟨project', hresult'⟩ := houtcome'.exists_ok hextends' hvalues.symm.subset houtcome
    rw [hresult'] at houtcome'
    obtain ⟨hanswers, hcomponents, hothers⟩ := houtcome
    obtain ⟨hanswers', hcomponents', hothers'⟩ := houtcome'
    refine .inr ⟨project, project', rfl, hresult', ?_, ?_⟩
    · have hsame : ∀ info ∈ (Registry.build program options).value.classes.values.filter
          ClassInfo.isDocumented,
          docOf (Registry.build program options).value options.overridePolicy info =
            docOf (Registry.build files options).value options.overridePolicy info := by
        intro info hinfo
        obtain ⟨hmem, hdocumented⟩ := List.mem_filter.1 hinfo
        obtain ⟨api, hapi⟩ := hanswers info hmem hdocumented
        obtain ⟨api', hapi'⟩ := hanswers' info (hvalues.mem_iff.1 hmem) hdocumented
        have hmodule := Registry.moduleFor_build_perm hperm hnames
          (hmodules info.name (Registry.mem_names_of_mem_values hmem))
        exact (docOf_eq hextends hextends' hmodule hapi hapi').symm
      rw [hcomponents, hcomponents', List.map_congr_left hsame]
      exact (hvalues.filter _).map _
    · rw [hothers, hothers']
      exact hentries.filter _

/-- A component before and after the file of its base and its module. -/
theorem document_perm_parent :
    let child : SourceFile := ⟨"child.ts", [componentDecl "Child" (some "Parent")]⟩
    let parent : SourceFile :=
      ⟨"parent.ts", [componentDecl "Parent" none, moduleDecl "Module" ["Child"]]⟩
    ((Registry.declared [child, parent] .default).map Registry.Declared.name).Nodup ∧
      ((document [child, parent] .default).value.map outline).toOption = some
        [("Child", some "Module", ["Child", "Parent"]), ("Parent", none, ["Parent"])] ∧
      ((document [parent, child] .default).value.map outline).toOption = some
        [("Parent", none, ["Parent"]), ("Child", some "Module", ["Child", "Parent"])] ∧
      ((∃ cycle cycle', (document [child, parent] .default).value = .error cycle ∧
          (document [parent, child] .default).value = .error cycle') ∨
        ∃ project project', (document [child, parent] .default).value = .ok project ∧
          (document [parent, child] .default).value = .ok project' ∧
          project.components.Perm project'.components ∧
          project.others.entries.Perm project'.others.entries) := by
  intro child parent
  have hnames : ((Registry.declared [child, parent] .default).map
      Registry.Declared.name).Nodup := by decide +kernel
  refine ⟨hnames, by decide +kernel, by decide +kernel, ?_⟩
  exact document_perm .default (List.Perm.swap parent child []) hnames (by decide +kernel)

end Project

end ComponentDocs
