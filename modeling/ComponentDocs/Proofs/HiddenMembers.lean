import ComponentDocs.Proofs.Extension
import ComponentDocs.Proofs.Overriding

/-!
# Hidden members

Members that are not public, and those that are neither properties nor methods, have no influence on
the documentation.  A member is hidden exactly when it declares neither a property nor a method that
is documented (`Member.isHidden_iff`), so a class without some of its hidden members has the same
entry in the registry (`ClassDecl.IsPared.info_eq`), and from there on everything is the same.

In the other direction nothing hidden gets into the documentation: `Api.IsPublic` holds of the own
members of every class in the registry, and inheritance keeps it under either policy
(`Api.IsPublic.inherit`).

`Project.document_pared` is the result for whole programs.
-/

namespace ComponentDocs

/-! ## Members -/

/-- A member that is marked as private or protected, has a private name, or is an accessor, a
constructor or an index signature. -/
inductive Member.IsHidden (member : Member) : Prop
  | privateAccess (h : member.modifiers.access = some .privateAccess)
  | protectedAccess (h : member.modifiers.access = some .protectedAccess)
  | privateName (h : member.modifiers.isPrivateName = true)
  | accessor (h : member.kind = .accessor)
  | constructor (h : member.kind = .constructor)
  | indexSignature (h : member.kind = .indexSignature)

/-- What is shown in the documentation has no access modifier or is marked as public. -/
def Visibility.IsPublic (visibility : Visibility) : Prop :=
  visibility = none ∨ visibility = some .publicAccess

theorem Visibility.isPublic_of_isDocumented {visibility : Visibility}
    (h : visibility.isDocumented = true) : visibility.IsPublic := by
  simpa [Visibility.isDocumented, Visibility.IsPublic] using h

namespace Member

variable {member : Member}

theorem isDocumented_eq_false_iff : member.visibility.isDocumented = false ↔
    member.modifiers.access = some .privateAccess ∨
      member.modifiers.access = some .protectedAccess ∨ member.modifiers.isPrivateName = true := by
  obtain ⟨kind, name, ⟨access, isStatic, isReadonly, isAbstract, isPrivateName⟩, -, -, -⟩ := member
  cases isPrivateName with
  | true => simp [visibility, Modifiers.visibility, Visibility.isDocumented]
  | false =>
    cases access with
    | none => simp [visibility, Modifiers.visibility, Visibility.isDocumented]
    | some access =>
      cases access <;> simp [visibility, Modifiers.visibility, Visibility.isDocumented]

/-- The hidden members are those that declare nothing that is documented. -/
theorem isHidden_iff : member.IsHidden ↔ member.property? = none ∧ member.method? = none := by
  constructor
  · intro h
    have hhidden : member.visibility.isDocumented = false ∨
        member.kind ≠ .property ∧ member.kind ≠ .method := by
      rw [isDocumented_eq_false_iff]
      cases h with
      | privateAccess h => exact .inl (.inl h)
      | protectedAccess h => exact .inl (.inr (.inl h))
      | privateName h => exact .inl (.inr (.inr h))
      | accessor h => exact .inr (by simp [h])
      | constructor h => exact .inr (by simp [h])
      | indexSignature h => exact .inr (by simp [h])
    rcases hhidden with hhidden | ⟨hproperty, hmethod⟩
    · simp [property?, method?, hhidden]
    · simp [property?, method?, hproperty, hmethod]
  · rintro ⟨hproperty, hmethod⟩
    cases hdocumented : member.visibility.isDocumented with
    | false =>
      rcases isDocumented_eq_false_iff.1 hdocumented with h | h | h
      · exact .privateAccess h
      · exact .protectedAccess h
      · exact .privateName h
    | true =>
      cases hkind : member.kind with
      | property => simp [property?, hkind, hdocumented] at hproperty
      | method => simp [method?, hkind, hdocumented] at hmethod
      | accessor => exact .accessor hkind
      | constructor => exact .constructor hkind
      | indexSignature => exact .indexSignature hkind

theorem isPublic_of_property? {property : Property} (h : member.property? = some property) :
    property.visibility.IsPublic := by
  unfold property? at h
  split at h
  · rename_i hproperty
    cases h
    exact Visibility.isPublic_of_isDocumented hproperty.2
  · cases h

theorem isPublic_of_method? {method : Method} (h : member.method? = some method) :
    method.visibility.IsPublic := by
  unfold method? at h
  split at h
  · rename_i hmethod
    cases h
    exact Visibility.isPublic_of_isDocumented hmethod.2
  · cases h

end Member

/-! ## Leaving hidden members out -/

/-- `rest` are the members without some of the hidden ones. -/
inductive Member.IsPared : (members rest : List Member) → Prop
  | nil : Member.IsPared [] []
  | keep (member : Member) {members rest : List Member} (h : Member.IsPared members rest) :
      Member.IsPared (member :: members) (member :: rest)
  | drop {member : Member} {members rest : List Member} (hhidden : member.IsHidden)
      (h : Member.IsPared members rest) : Member.IsPared (member :: members) rest

theorem Member.IsPared.ofMembers_eq {members rest : List Member} (h : Member.IsPared members rest) :
    Api.ofMembers rest = Api.ofMembers members := by
  unfold Api.ofMembers
  induction h with
  | nil => rfl
  | keep member h ih =>
    obtain ⟨hproperties, hmethods⟩ := Api.mk.inj ih
    rw [List.filterMap_cons, List.filterMap_cons, List.filterMap_cons, List.filterMap_cons,
      hproperties, hmethods]
  | drop hhidden h ih =>
    obtain ⟨hproperty, hmethod⟩ := Member.isHidden_iff.1 hhidden
    rw [ih, List.filterMap_cons_none hproperty, List.filterMap_cons_none hmethod]

/-- The class without some of its hidden members. -/
inductive ClassDecl.IsPared (decl : ClassDecl) : ClassDecl → Prop
  | intro {members : List Member} (h : Member.IsPared decl.members members) :
      ClassDecl.IsPared decl { decl with members }

/-- The file with some hidden members left out of its classes. -/
structure SourceFile.IsPared (file pared : SourceFile) : Prop where
  name : pared.name = file.name
  classes : List.Forall₂ ClassDecl.IsPared file.classes pared.classes

theorem ClassDecl.IsPared.info_eq {decl pared : ClassDecl} (h : decl.IsPared pared)
    (options : Options) (file : String) : pared.info options file = decl.info options file := by
  obtain ⟨hmembers⟩ := h
  simp only [ClassDecl.info, hmembers.ofMembers_eq]
  rfl

namespace Registry

theorem addClass_pared {decl pared : ClassDecl} (h : decl.IsPared pared) (options : Options)
    (file : String) (registry : Registry) :
    addClass options file registry pared = addClass options file registry decl := by
  have hinfo := h.info_eq options file
  obtain ⟨hmembers⟩ := h
  simp only [addClass, hinfo]
  rfl

/-- A loop does the same with items that are alike to it. -/
theorem foldlM_eq_of_forall₂ {m : Type → Type} [Monad m] {σ α : Type} {alike : α → α → Prop}
    {f : σ → α → m σ} (hstep : ∀ state item other, alike item other → f state other = f state item)
    {items others : List α} (h : List.Forall₂ alike items others) (state : σ) :
    others.foldlM f state = items.foldlM f state := by
  induction h generalizing state with
  | nil => rfl
  | cons hitem hrest ih =>
    rw [List.foldlM_cons, List.foldlM_cons, hstep _ _ _ hitem]
    exact congrArg _ (funext ih)

theorem addFile_pared {file pared : SourceFile} (h : file.IsPared pared) (options : Options)
    (registry : Registry) : addFile options registry pared = addFile options registry file := by
  have hclasses : ∀ name, pared.classes.foldlM (addClass options name) registry =
      file.classes.foldlM (addClass options name) registry := fun name =>
    foldlM_eq_of_forall₂ (f := addClass options name)
      (fun registry _ _ hdecl => addClass_pared hdecl options name registry) h.classes registry
  rw [addFile, addFile, h.name, hclasses]

theorem build_pared {program pared : List SourceFile}
    (h : List.Forall₂ SourceFile.IsPared program pared) (options : Options) :
    build pared options = build program options := by
  have hfiles : pared.foldlM (addFile options) empty = program.foldlM (addFile options) empty :=
    foldlM_eq_of_forall₂ (f := addFile options)
      (fun registry _ _ hfile => addFile_pared hfile options registry) h empty
  rw [build, build, hfiles]

end Registry

/-! ## What is shown -/

/-- All members are public. -/
structure Api.IsPublic (api : Api) : Prop where
  properties : ∀ property ∈ api.properties, property.visibility.IsPublic
  methods : ∀ method ∈ api.methods, method.visibility.IsPublic

namespace Api

theorem isPublic_empty : empty.IsPublic :=
  ⟨List.forall_mem_nil _, List.forall_mem_nil _⟩

theorem isPublic_ofMembers (members : List Member) : (ofMembers members).IsPublic := by
  constructor
  · intro property hproperty
    obtain ⟨member, -, hmember⟩ := List.mem_filterMap.1 hproperty
    exact Member.isPublic_of_property? hmember
  · intro method hmethod
    obtain ⟨member, -, hmember⟩ := List.mem_filterMap.1 hmethod
    exact Member.isPublic_of_method? hmember

/-- Inherited members are those of the ancestor, whether all of them or only some. -/
theorem forall_mem_appendNew {α : Type} (name : α → String) {p : α → Prop} {own inherited : List α}
    (hown : ∀ item ∈ own, p item) (hinherited : ∀ item ∈ inherited, p item) :
    ∀ item ∈ appendNew name own inherited, p item := by
  rw [appendNew_eq_append_unlisted, List.forall_mem_append]
  exact ⟨hown, fun item hitem =>
    hinherited item ((unlisted_sublist name own inherited).subset hitem)⟩

theorem IsPublic.inherit {own inherited : Api} (hown : own.IsPublic)
    (hinherited : inherited.IsPublic) (policy : OverridePolicy) :
    (own.inherit policy inherited).IsPublic := by
  cases policy with
  | concatenate =>
    exact ⟨List.forall_mem_append.2 ⟨hown.properties, hinherited.properties⟩,
      List.forall_mem_append.2 ⟨hown.methods, hinherited.methods⟩⟩
  | childWins =>
    exact ⟨forall_mem_appendNew _ hown.properties hinherited.properties,
      forall_mem_appendNew _ hown.methods hinherited.methods⟩

theorem isPublic_flatten (policy : OverridePolicy) {chain : List ClassInfo}
    (hchain : ∀ info ∈ chain, info.own.IsPublic) : (flatten policy chain).IsPublic := by
  induction chain with
  | nil => exact isPublic_empty
  | cons info chain ih =>
    rw [List.forall_mem_cons] at hchain
    exact hchain.1.inherit (ih hchain.2) policy

end Api

namespace Registry

theorem isPublic_own {program : List SourceFile} {options : Options} :
    ∀ entry ∈ (build program options).value.classes.entries, entry.2.own.IsPublic := by
  rw [(holds_build program options).entries, List.forall_mem_map]
  exact fun declared _ => Api.isPublic_ofMembers declared.decl.members

theorem isPublic_answer {registry : Registry} {policy : OverridePolicy} {name : String} {api : Api}
    (hown : ∀ entry ∈ registry.classes.entries, entry.2.own.IsPublic)
    (hanswer : registry.answer policy name = .ok api) : api.IsPublic := by
  obtain ⟨chain, hchain, rfl⟩ := exists_lineage_of_answer hanswer
  refine Api.isPublic_flatten policy fun info hinfo => ?_
  obtain ⟨k, hk⟩ := List.mem_iff_getElem?.1 hinfo
  rw [hchain k] at hk
  obtain ⟨met, -, hmet⟩ := Option.bind_eq_some_iff.1 hk
  exact hown _ (OrderedMap.mem_entries_of_get? hmet)

end Registry

namespace Project

/-- Hidden members have no influence on the documentation, and none of them is shown.  A program
whose classes lack any of their hidden members has the same documentation or fails in the same way,
and logs the same.  The members that are listed, a class's own ones and those of a full API, are all
public. -/
theorem document_pared {program pared : List SourceFile}
    (h : List.Forall₂ SourceFile.IsPared program pared) (options : Options) :
    document pared options = document program options ∧
      ∀ project, (document program options).value = .ok project →
        (∀ doc ∈ project.components, doc.api.IsPublic) ∧
          ∀ entry ∈ project.others.entries, entry.2.own.IsPublic := by
  have hown : ∀ entry ∈ (Registry.build program options).value.classes.entries,
      entry.2.own.IsPublic := Registry.isPublic_own
  refine ⟨by rw [document, document, Registry.build_pared h], fun project hproject => ?_⟩
  have houtcome := outcome_document program options
  rw [hproject] at houtcome
  obtain ⟨hanswers, hcomponents, hothers⟩ := houtcome
  rw [hcomponents, hothers, List.forall_mem_map]
  refine ⟨fun info hinfo => ?_, fun entry hentry => hown entry (List.mem_of_mem_filter hentry)⟩
  obtain ⟨hmem, hdocumented⟩ := List.mem_filter.1 hinfo
  obtain ⟨api, hapi⟩ := hanswers info hmem hdocumented
  rw [docOf, hapi]
  exact Registry.isPublic_answer hown hapi

/-- A private member with the name of a public one of the base does not stand in for that, even when
members that are declared again win. -/
theorem document_pared_shadow :
    let shown : Member := ⟨.property, "shown", .none, [], none, none⟩
    let hidden : Member :=
      ⟨.property, "shown", ⟨some .privateAccess, false, false, false, false⟩, [], none, none⟩
    let accessor : Member := ⟨.accessor, "other", .none, [], none, none⟩
    let child := componentDecl "Child" (some "Parent")
    let parent := componentDecl "Parent" none
    let program : List SourceFile := [⟨"a.ts",
      [{ child with members := [hidden] }, { parent with members := [accessor, shown] }]⟩]
    let pared : List SourceFile := [⟨"a.ts",
      [{ child with members := [] }, { parent with members := [shown] }]⟩]
    let options : Options := { Options.default with overridePolicy := .childWins }
    List.Forall₂ SourceFile.IsPared program pared ∧
      document pared options = document program options ∧
      ∃ project, (document program options).value = .ok project ∧
        project.outline = [("Child", none, ["shown"]), ("Parent", none, ["shown"])] ∧
        (∀ doc ∈ project.components, doc.api.IsPublic) ∧
          ∀ entry ∈ project.others.entries, entry.2.own.IsPublic := by
  intro shown hidden accessor child parent program pared options
  have hchild : Member.IsPared [hidden] [] := .drop (.privateAccess rfl) .nil
  have hparent : Member.IsPared [accessor, shown] [shown] :=
    .drop (.accessor rfl) (.keep shown .nil)
  have hpared : List.Forall₂ SourceFile.IsPared program pared :=
    .cons ⟨rfl, .cons (.intro hchild) (.cons (.intro hparent) .nil)⟩ .nil
  have houtline : ((document program options).value.map outline).toOption =
      some [("Child", none, ["shown"]), ("Parent", none, ["shown"])] := by
    decide +kernel
  obtain ⟨hsame, hshown⟩ := document_pared hpared options
  refine ⟨hpared, hsame, ?_⟩
  cases hproject : (document program options).value with
  | error cycle =>
    rw [hproject] at houtline
    cases houtline
  | ok project =>
    rw [hproject] at houtline
    exact ⟨project, rfl, Option.some.inj houtline, hshown project hproject⟩

end Project

end ComponentDocs
