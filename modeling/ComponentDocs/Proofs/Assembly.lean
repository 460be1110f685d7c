import ComponentDocs.Project
import ComponentDocs.Proofs.Registration
import ComponentDocs.Proofs.Resolution

/-!
# How the documentation is put together

One resolver serves all components of a program, and its cache grows from one to the next.  `Added`
says what adding classes does without mentioning a resolver: what each component gets depends on
the registry alone (`added_addClasses`).  The two parts of the documentation and the reason for a
failure are then read off `Added` by induction over the classes.

`document_eq_split_registry` is the result for the registry of a whole program.
-/

namespace ComponentDocs

namespace Registry

/-- What a new resolver answers for a class. -/
def answer (registry : Registry) (policy : OverridePolicy) (name : String) : Except Cycle Api :=
  (registry.resolve policy .empty name).value.1

theorem answer_error_iff (registry : Registry) (policy : OverridePolicy) (name : String) :
    (∃ cycle, registry.answer policy name = .error cycle) ↔ ∃ i j, registry.Revisits name i j := by
  have hidle : registry.Idle policy .empty := idle_empty
  have hanswers := hidle.answers name
  unfold answer
  generalize (registry.resolve policy .empty name).value = found at hanswers
  cases hanswers with
  | flattened hchain =>
    constructor
    · rintro ⟨cycle, hcycle⟩
      cases hcycle
    · rintro ⟨i, j, hrevisits⟩
      exact absurd hrevisits (hchain.not_revisits i j)
  | @cyclic cycle i j hfirst hcycle => exact ⟨fun _ => ⟨i, j, hfirst.1⟩, fun _ => ⟨cycle, rfl⟩⟩

/-- A full API is a lineage flattened. -/
theorem exists_lineage_of_answer {registry : Registry} {policy : OverridePolicy} {name : String}
    {api : Api} (hanswer : registry.answer policy name = .ok api) :
    ∃ chain, registry.IsLineage name chain ∧ api = .flatten policy chain := by
  have hidle : registry.Idle policy .empty := idle_empty
  have hanswers := hidle.answers name
  unfold answer at hanswer
  generalize (registry.resolve policy .empty name).value = found at hanswer hanswers
  cases hanswers with
  | @flattened chain after hchain hvalid hvisiting =>
    cases hanswer
    exact ⟨chain, hchain, rfl⟩
  | cyclic hfirst hcycle => cases hanswer

theorem not_revisits_of_answer {registry : Registry} {policy : OverridePolicy} {name : String}
    {api : Api} (hanswer : registry.answer policy name = .ok api) (i j : Nat) :
    ¬ registry.Revisits name i j := by
  obtain ⟨chain, hchain, -⟩ := exists_lineage_of_answer hanswer
  exact hchain.not_revisits i j

end Registry

namespace Project

variable {registry : Registry} {policy : OverridePolicy}

/-! ## Adding classes without a resolver -/

/-- The project with one more component. -/
def addComponent (project : Project) (doc : ComponentDoc) : Project :=
  { project with components := project.components ++ [doc] }

/-- The project with one more class that is not documented. -/
def addOther (project : Project) (info : ClassInfo) : Project :=
  { project with others := project.others.insert info.name info }

/-- What comes of adding classes to a project. -/
inductive Added (registry : Registry) (policy : OverridePolicy) :
    Project → List ClassInfo → Except Cycle Project → Prop
  | done {project : Project} : Added registry policy project [] (.ok project)
  | component {project : Project} {info : ClassInfo} {rest : List ClassInfo} {api : Api}
      {result : Except Cycle Project} (hdocumented : info.isDocumented = true)
      (hanswer : registry.answer policy info.name = .ok api)
      (hrest : Added registry policy
        (project.addComponent (componentDoc registry info api)) rest result) :
      Added registry policy project (info :: rest) result
  | cyclic {project : Project} {info : ClassInfo} {rest : List ClassInfo} {cycle : Cycle}
      (hdocumented : info.isDocumented = true)
      (hanswer : registry.answer policy info.name = .error cycle) :
      Added registry policy project (info :: rest) (.error cycle)
  | other {project : Project} {info : ClassInfo} {rest : List ClassInfo}
      {result : Except Cycle Project} (hdocumented : info.isDocumented = false)
      (hrest : Added registry policy (project.addOther info) rest result) :
      Added registry policy project (info :: rest) result

theorem added_addClasses {draft : Draft} (hidle : registry.Idle policy draft.resolver)
    (infos : List ClassInfo) :
    Added registry policy draft.project infos
      ((addClasses registry policy draft infos).value.map Draft.project) := by
  induction infos generalizing draft with
  | nil => exact .done
  | cons info rest ih =>
    rw [addClasses, Logged.value_bind]
    unfold addClass
    cases hdocumented : info.isDocumented with
    | false =>
      have hrest := @ih ⟨draft.project.addOther info, draft.resolver⟩ hidle
      rw [if_neg Bool.false_ne_true]
      exact .other hdocumented hrest
    | true =>
      rw [if_pos rfl, Logged.value_bind]
      have hanswer : (registry.resolve policy draft.resolver info.name).value.1 =
          registry.answer policy info.name := hidle.resolve_eq_fresh info.name
      have hnext := hidle.resolve info.name
      generalize (registry.resolve policy draft.resolver info.name).value = found at hanswer hnext
      obtain ⟨result, resolver⟩ := found
      cases result with
      | error cycle => exact .cyclic hdocumented hanswer.symm
      | ok api =>
        have hrest :=
          @ih ⟨draft.project.addComponent (componentDoc registry info api), resolver⟩ hnext
        exact .component hdocumented hanswer.symm hrest

theorem added_document (program : List SourceFile) (options : Options) :
    Added (Registry.build program options).value options.overridePolicy empty
      (Registry.build program options).value.classes.values (document program options).value := by
  have hdocument : (document program options).value =
      (addClasses (Registry.build program options).value options.overridePolicy ⟨empty, .empty⟩
        (Registry.build program options).value.classes.values).value.map Draft.project := by
    rw [document, Logged.value_bind, Logged.value_bind]
    split <;> (rename_i hadded; rw [hadded]; rfl)
  have hidle : (Registry.build program options).value.Idle options.overridePolicy
      (Draft.mk empty .empty).resolver := Registry.idle_empty
  rw [hdocument]
  exact added_addClasses hidle _

/-! ## The components -/

/-- `doc` is the documentation of the registered class `info`. -/
structure Documents (registry : Registry) (policy : OverridePolicy) (info : ClassInfo)
    (doc : ComponentDoc) : Prop where
  entry : registry.get? doc.className = some info
  componentName : info.tags.component = some doc.componentName
  groupName : doc.groupName = info.tags.group.getD ""
  description : doc.description = info.tags.description
  file : doc.file = info.file
  selector : doc.selector = info.registration.bind Registration.selector
  module : doc.module = registry.modules.find? fun module => module.declares doc.className
  bases : doc.bases = info.base.toList
  api : registry.answer policy doc.className = .ok doc.api

theorem documents_componentDoc (hconsistent : registry.Consistent) {info : ClassInfo} {api : Api}
    (hinfo : info ∈ registry.classes.values) (hdocumented : info.isDocumented = true)
    (hanswer : registry.answer policy info.name = .ok api) :
    Documents registry policy info (componentDoc registry info api) := by
  have htag : info.tags.component.isSome = true := by
    rw [hconsistent.isDocumented_eq hinfo] at hdocumented
    exact (Bool.and_eq_true_iff.1 hdocumented).2
  obtain ⟨name, hname⟩ := Option.isSome_iff_exists.1 htag
  refine ⟨hconsistent.get?_name hinfo, ?_, rfl, rfl, rfl, rfl, hconsistent.owner info.name, rfl,
    hanswer⟩
  rw [componentDoc, hname]
  rfl

theorem Added.components (hconsistent : registry.Consistent) {project final : Project}
    {infos : List ClassInfo} (hinfos : ∀ info ∈ infos, info ∈ registry.classes.values)
    (h : Added registry policy project infos (.ok final)) :
    ∃ docs, final.components = project.components ++ docs ∧
      List.Forall₂ (Documents registry policy) (infos.filter ClassInfo.isDocumented) docs := by
  generalize hresult : Except.ok final = result at h
  induction h with
  | done =>
    cases hresult
    exact ⟨[], (List.append_nil _).symm, .nil⟩
  | @component project info rest api result hdocumented hanswer hrest ih =>
    obtain ⟨docs, hdocs, hpairs⟩ :=
      ih (fun other h => hinfos other (List.mem_cons_of_mem _ h)) hresult
    refine ⟨componentDoc registry info api :: docs, ?_, ?_⟩
    · rw [hdocs, addComponent, List.append_assoc, List.singleton_append]
    · rw [List.filter_cons_of_pos hdocumented]
      exact .cons (documents_componentDoc hconsistent (hinfos info List.mem_cons_self) hdocumented
        hanswer) hpairs
  | cyclic hdocumented hanswer => cases hresult
  | @other project info rest result hdocumented hrest ih =>
    rw [List.filter_cons_of_neg (by simp [hdocumented])]
    exact ih (fun other h => hinfos other (List.mem_cons_of_mem _ h)) hresult

/-! ## The other classes -/

theorem Added.others {project final : Project} {infos : List ClassInfo}
    (hnodup : (project.others.keys ++ infos.map ClassInfo.name).Nodup)
    (h : Added registry policy project infos (.ok final)) :
    final.others.entries = project.others.entries ++
      (infos.filter fun info => !info.isDocumented).map fun info => (info.name, info) := by
  generalize hresult : Except.ok final = result at h
  induction h with
  | done =>
    cases hresult
    exact (List.append_nil _).symm
  | @component project info rest api result hdocumented hanswer hrest ih =>
    rw [List.filter_cons_of_neg (by simp [hdocumented])]
    refine ih ?_ hresult
    exact hnodup.sublist (List.Sublist.append_left (List.sublist_cons_self _ _) _)
  | cyclic hdocumented hanswer => cases hresult
  | @other project info rest result hdocumented hrest ih =>
    have hnew : info.name ∉ project.others.keys := by
      intro hkey
      exact (List.nodup_append.1 hnodup).2.2 _ hkey _ List.mem_cons_self rfl
    have hentries := OrderedMap.entries_insert_of_notMem hnew info
    have hkeys : (project.addOther info).others.keys = project.others.keys ++ [info.name] := by
      rw [addOther, OrderedMap.keys, hentries, List.map_append]
      rfl
    rw [ih (by rw [hkeys, List.append_assoc]; exact hnodup) hresult, addOther, hentries,
      List.filter_cons_of_pos (by simp [hdocumented]), List.map_cons, List.append_assoc]
    rfl

/-! ## Failure -/

theorem Added.error {project : Project} {infos : List ClassInfo} {cycle : Cycle}
    (h : Added registry policy project infos (.error cycle)) :
    ∃ before info after, infos = before ++ info :: after ∧ info.isDocumented = true ∧
      registry.answer policy info.name = .error cycle ∧
      ∀ earlier ∈ before, earlier.isDocumented = true →
        ∃ api, registry.answer policy earlier.name = .ok api := by
  generalize hresult : Except.error cycle = result at h
  induction h with
  | done => cases hresult
  | @component project first rest api result hdocumented hanswer hrest ih =>
    obtain ⟨before, info, after, hsplit, hinfo, hcycle, hearlier⟩ := ih hresult
    refine ⟨first :: before, info, after, congrArg (first :: ·) hsplit, hinfo, hcycle, ?_⟩
    intro earlier hmem hdocumented'
    rcases List.mem_cons.1 hmem with rfl | hmem
    · exact ⟨api, hanswer⟩
    · exact hearlier earlier hmem hdocumented'
  | @cyclic project info rest cycle' hdocumented hanswer =>
    cases hresult
    exact ⟨[], info, rest, rfl, hdocumented, hanswer, by simp⟩
  | @other project first rest result hdocumented hrest ih =>
    obtain ⟨before, info, after, hsplit, hinfo, hcycle, hearlier⟩ := ih hresult
    refine ⟨first :: before, info, after, congrArg (first :: ·) hsplit, hinfo, hcycle, ?_⟩
    intro earlier hmem hdocumented'
    rcases List.mem_cons.1 hmem with rfl | hmem
    · rw [hdocumented] at hdocumented'
      cases hdocumented'
    · exact hearlier earlier hmem hdocumented'

/-- Every documented class of a project that could be assembled has an answer. -/
theorem Added.answer_ok {project final : Project} {infos : List ClassInfo}
    (h : Added registry policy project infos (.ok final)) {info : ClassInfo} (hinfo : info ∈ infos)
    (hdocumented : info.isDocumented = true) :
    ∃ api, registry.answer policy info.name = .ok api := by
  generalize hresult : Except.ok final = result at h
  induction h with
  | done => cases hinfo
  | @component project first rest api result hfirst hanswer hrest ih =>
    rcases List.mem_cons.1 hinfo with rfl | hinfo
    · exact ⟨api, hanswer⟩
    · exact ih hinfo hresult
  | cyclic hfirst hanswer => cases hresult
  | other hfirst hrest ih =>
    rcases List.mem_cons.1 hinfo with rfl | hinfo
    · rw [hfirst] at hdocumented
      cases hdocumented
    · exact ih hinfo hresult

/-! ## A whole program -/

/-- The entries of the classes that are not documented, from the classes alone. -/
theorem map_filter_values (hconsistent : registry.Consistent) :
    ((registry.classes.values.filter fun info => !info.isDocumented).map fun info =>
        (info.name, info)) =
      registry.classes.entries.filter fun entry => !entry.2.isDocumented := by
  rw [OrderedMap.values, List.filter_map, List.map_map]
  refine (List.map_congr_left ?_).trans (List.map_id _)
  intro entry hentry
  have hname := hconsistent.named entry (List.mem_of_mem_filter hentry)
  exact Prod.ext hname rfl

theorem map_className {infos : List ClassInfo} {docs : List ComponentDoc}
    (hconsistent : registry.Consistent)
    (h : List.Forall₂ (Documents registry policy) infos docs) :
    docs.map ComponentDoc.className = infos.map ClassInfo.name := by
  induction h with
  | nil => rfl
  | cons hdoc hrest ih =>
    have hname := hconsistent.name_of_get? hdoc.entry
    rw [List.map_cons, List.map_cons, ih, hname]

/-- The two parts of a registry have its names, each once. -/
theorem nodup_names (hconsistent : registry.Consistent) :
    (((registry.classes.values.filter ClassInfo.isDocumented).map ClassInfo.name) ++
      (registry.classes.values.filter fun info => !info.isDocumented).map
        ClassInfo.name).Nodup := by
  rw [← List.map_append]
  have hperm := List.filter_append_perm ClassInfo.isDocumented registry.classes.values
  rw [(hperm.map ClassInfo.name).nodup_iff, hconsistent.map_name_values]
  exact registry.classes.nodup

/-- The documentation of a class with the full API that a new resolver gives. -/
def docOf (registry : Registry) (policy : OverridePolicy) (info : ClassInfo) : ComponentDoc :=
  componentDoc registry info ((registry.answer policy info.name).toOption.getD .empty)

theorem Documents.eq_docOf (hconsistent : registry.Consistent) {info : ClassInfo}
    {doc : ComponentDoc} (h : Documents registry policy info doc) :
    docOf registry policy info = doc := by
  obtain ⟨hentry, hcomponent, hgroup, hdescription, hfile, hselector, hmodule, hbases, hapi⟩ := h
  have hname : info.name = doc.className := hconsistent.name_of_get? hentry
  rw [docOf, componentDoc, hname, hcomponent, ← hgroup, ← hdescription, ← hfile, ← hselector,
    hconsistent.owner, ← hmodule, ← hbases, hapi]
  rfl

/-- What comes of documenting a registry. -/
inductive Outcome (registry : Registry) (policy : OverridePolicy) : Except Cycle Project → Prop
  | documented {project : Project}
      (hanswers : ∀ info ∈ registry.classes.values, info.isDocumented = true →
        ∃ api, registry.answer policy info.name = .ok api)
      (hcomponents : project.components =
        (registry.classes.values.filter ClassInfo.isDocumented).map (docOf registry policy))
      (hothers : project.others.entries =
        registry.classes.entries.filter fun entry => !entry.2.isDocumented) :
      Outcome registry policy (.ok project)
  | cyclic {cycle : Cycle} {info : ClassInfo} (hinfo : info ∈ registry.classes.values)
      (hdocumented : info.isDocumented = true)
      (hanswer : registry.answer policy info.name = .error cycle) :
      Outcome registry policy (.error cycle)

theorem outcome_document (program : List SourceFile) (options : Options) :
    Outcome (Registry.build program options).value options.overridePolicy
      (document program options).value := by
  have hconsistent := Registry.consistent_build program options
  have hadded := added_document program options
  generalize (document program options).value = result at hadded
  generalize (Registry.build program options).value = registry at hconsistent hadded
  cases result with
  | error cycle =>
    obtain ⟨before, info, after, hsplit, hdocumented, hcycle, -⟩ := hadded.error
    exact .cyclic (by rw [hsplit]; simp) hdocumented hcycle
  | ok project =>
    obtain ⟨docs, hdocs, hpairs⟩ := hadded.components hconsistent fun info hinfo => hinfo
    have hothers := hadded.others (by
      rw [hconsistent.map_name_values]
      exact registry.classes.nodup)
    refine .documented (fun info hinfo hdocumented => hadded.answer_ok hinfo hdocumented) ?_
      (hothers.trans (map_filter_values hconsistent))
    have hmapped := List.forall₂_map_left_iff.2 (hpairs.imp fun _ _ h => h.eq_docOf hconsistent)
    rw [List.forall₂_eq_eq_eq] at hmapped
    exact hdocs.trans hmapped.symm

/-- The documentation of a program is its registry in two parts.  It fails exactly when the way from
a documented component runs into a cycle, with the cycle that a new resolver reports for the first
such component.  Otherwise every documented component has its documentation, all other classes
stand as they do in the registry, and no name occurs twice. -/
theorem document_eq_split_registry (program : List SourceFile) (options : Options) :
    let registry := (Registry.build program options).value
    let result := (document program options).value
    ((∃ cycle, result = .error cycle) ↔
        ∃ info ∈ registry.classes.values, info.isDocumented = true ∧
          ∃ i j, registry.Revisits info.name i j) ∧
      (∀ cycle, result = .error cycle →
        ∃ before info after, registry.classes.values = before ++ info :: after ∧
          info.isDocumented = true ∧
          (registry.resolve options.overridePolicy .empty info.name).value.1 = .error cycle ∧
          ∀ earlier ∈ before, earlier.isDocumented = true →
            ∀ i j, ¬ registry.Revisits earlier.name i j) ∧
      ∀ project, result = .ok project →
        List.Forall₂ (Documents registry options.overridePolicy)
            (registry.classes.values.filter ClassInfo.isDocumented) project.components ∧
          project.others.entries =
            registry.classes.entries.filter (fun entry => !entry.2.isDocumented) ∧
          (project.components.map ComponentDoc.className ++ project.others.keys).Nodup := by
  intro registry result
  have hconsistent : registry.Consistent := Registry.consistent_build program options
  have hadded : Added registry options.overridePolicy empty registry.classes.values result :=
    added_document program options
  generalize result = found at hadded
  refine ⟨⟨?_, ?_⟩, ?_, ?_⟩
  · rintro ⟨cycle, rfl⟩
    obtain ⟨before, info, after, hsplit, hdocumented, hcycle, -⟩ := hadded.error
    refine ⟨info, by rw [hsplit]; simp, hdocumented, ?_⟩
    exact (registry.answer_error_iff _ _).1 ⟨cycle, hcycle⟩
  · rintro ⟨info, hinfo, hdocumented, i, j, hrevisits⟩
    cases found with
    | error cycle => exact ⟨cycle, rfl⟩
    | ok project =>
      obtain ⟨api, hanswer⟩ := hadded.answer_ok hinfo hdocumented
      exact absurd hrevisits (Registry.not_revisits_of_answer hanswer i j)
  · rintro cycle rfl
    obtain ⟨before, info, after, hsplit, hdocumented, hcycle, hearlier⟩ := hadded.error
    refine ⟨before, info, after, hsplit, hdocumented, hcycle, ?_⟩
    intro earlier hmem hdocumented'
    obtain ⟨api, hanswer⟩ := hearlier earlier hmem hdocumented'
    exact Registry.not_revisits_of_answer hanswer
  · rintro project rfl
    obtain ⟨docs, hdocs, hpairs⟩ := hadded.components hconsistent fun info hinfo => hinfo
    have hothers := hadded.others (by
      rw [hconsistent.map_name_values]
      exact registry.classes.nodup)
    rw [show empty.components = [] from rfl, List.nil_append] at hdocs
    rw [show empty.others.entries = [] from rfl, List.nil_append] at hothers
    refine ⟨hdocs ▸ hpairs, hothers.trans (map_filter_values hconsistent), ?_⟩
    rw [hdocs, map_className hconsistent hpairs, OrderedMap.keys, hothers, List.map_map]
    exact nodup_names hconsistent

end Project

end ComponentDocs
