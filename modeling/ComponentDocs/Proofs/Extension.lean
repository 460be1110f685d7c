import ComponentDocs.Proofs.Assembly
import ComponentDocs.Proofs.FirstDeclaration

/-!
# More files

Files that are added behind a program can only add to its documentation.  The registry of them all
extends that of the program: `Registry.Extends` says that known classes stay what they are.  The way
from a class to its bases then stays the same as far as it was known, so its lineage can only grow at
the end (`Extends.lineage_mono`), and so does the full API, since what a class inherits comes after
its own members under either policy (`Api.flatten_grows`).

`Project.document_append_grows` is the result for whole programs.
-/

namespace ComponentDocs

/-! ## Full APIs of longer lineages -/

namespace Api

/-- `later` lists the members of `api` first. -/
structure Grows (api later : Api) : Prop where
  properties : api.properties <+: later.properties
  methods : api.methods <+: later.methods

theorem isPrefix_appendNew {α : Type} (name : α → String) (listed more : List α) :
    listed <+: appendNew name listed more := by
  unfold appendNew
  induction more generalizing listed with
  | nil => exact List.prefix_rfl
  | cons item more ih =>
    rw [List.foldl_cons]
    split
    · exact ih listed
    · exact (List.prefix_append listed [item]).trans (ih _)

/-- What is listed already is not moved or dropped by items that come later. -/
theorem appendNew_mono {α : Type} (name : α → String) (listed : List α) {more later : List α}
    (h : more <+: later) : appendNew name listed more <+: appendNew name listed later := by
  obtain ⟨rest, rfl⟩ := h
  rw [appendNew, appendNew, List.foldl_append]
  exact isPrefix_appendNew name _ rest

theorem Grows.inherit {inherited later : Api} (h : inherited.Grows later)
    (policy : OverridePolicy) (own : Api) :
    (own.inherit policy inherited).Grows (own.inherit policy later) := by
  cases policy with
  | concatenate =>
    exact ⟨(List.prefix_append_right_inj _).2 h.properties,
      (List.prefix_append_right_inj _).2 h.methods⟩
  | childWins =>
    exact ⟨appendNew_mono _ _ h.properties, appendNew_mono _ _ h.methods⟩

theorem flatten_grows (policy : OverridePolicy) (chain more : List ClassInfo) :
    (flatten policy chain).Grows (flatten policy (chain ++ more)) := by
  induction chain with
  | nil => exact ⟨List.nil_prefix, List.nil_prefix⟩
  | cons info chain ih => exact ih.inherit policy info.own

end Api

/-! ## Registries with more classes -/

namespace Registry

variable {registry later : Registry} {policy : OverridePolicy}

/-- Every class of `registry` stands in `later` under the same name, unchanged. -/
def Extends (registry later : Registry) : Prop :=
  ∀ name info, registry.get? name = some info → later.get? name = some info

theorem Extends.ancestor? (h : registry.Extends later) {name met : String} {k : Nat}
    (hmet : registry.ancestor? name k = some met) : later.ancestor? name k = some met := by
  induction k generalizing met with
  | zero => exact hmet
  | succ k ih =>
    obtain ⟨before, hbefore, hbase⟩ := Option.bind_eq_some_iff.1 hmet
    obtain ⟨info, hinfo, hparent⟩ := Option.bind_eq_some_iff.1 hbase
    rw [Registry.ancestor?, ih hbefore]
    exact base?_eq_some (h _ _ hinfo) hparent

theorem Extends.revisits (h : registry.Extends later) {name : String} {i j : Nat}
    (hrevisits : registry.Revisits name i j) : later.Revisits name i j := by
  obtain ⟨hlt, visited, hi, hj, hregistered⟩ := hrevisits
  obtain ⟨info, hinfo⟩ := Option.isSome_iff_exists.1 hregistered
  exact ⟨hlt, visited, h.ancestor? hi, h.ancestor? hj,
    Option.isSome_iff_exists.2 ⟨info, h _ _ hinfo⟩⟩

/-- A class that can be resolved with more classes can be resolved without them. -/
theorem Extends.answer_ok (h : registry.Extends later) {name : String} {api : Api}
    (hanswer : later.answer policy name = .ok api) :
    ∃ api, registry.answer policy name = .ok api := by
  cases hfound : registry.answer policy name with
  | ok api => exact ⟨api, rfl⟩
  | error cycle =>
    obtain ⟨i, j, hrevisits⟩ := (registry.answer_error_iff policy name).1 ⟨cycle, hfound⟩
    exact absurd (h.revisits hrevisits) (not_revisits_of_answer hanswer i j)

/-- The lineage grows at its end only. -/
theorem Extends.lineage_mono (h : registry.Extends later) {name : String}
    {chain longer : List ClassInfo} (hchain : registry.IsLineage name chain)
    (hlonger : later.IsLineage name longer) : chain <+: longer := by
  rw [List.prefix_iff_getElem?]
  intro k hk
  have hclass := hchain k
  rw [List.getElem?_eq_getElem hk] at hclass
  obtain ⟨met, hmet, hinfo⟩ := Option.bind_eq_some_iff.1 hclass.symm
  rw [hlonger k, h.ancestor? hmet]
  exact h _ _ hinfo

/-- A lineage whose last class names no base stays as it is. -/
theorem Extends.lineage_eq (h : registry.Extends later) {name : String}
    {chain longer : List ClassInfo} {last : ClassInfo} (hchain : registry.IsLineage name chain)
    (hlonger : later.IsLineage name longer) (hlast : chain.getLast? = some last)
    (hbase : last.base = none) : longer = chain := by
  obtain ⟨more, rfl⟩ := h.lineage_mono hchain hlonger
  cases more with
  | nil => exact List.append_nil chain
  | cons next more =>
    -- The next class would have to be the base of the last one.
    have hnext := hlonger chain.length
    obtain ⟨before, rfl⟩ := List.getLast?_eq_some_iff.1 hlast
    obtain ⟨met, hmet, hinfo⟩ : ∃ met, later.ancestor? name before.length = some met ∧
        later.get? met = some last := by
      have hat := hlonger before.length
      rw [List.append_assoc, List.getElem?_append_right (Nat.le_refl _), Nat.sub_self] at hat
      exact Option.bind_eq_some_iff.1 hat.symm
    rw [List.getElem?_append_right (Nat.le_refl _), Nat.sub_self, List.length_append,
      List.length_singleton, Registry.ancestor?, hmet, Option.bind_some, base?, hinfo,
      Option.bind_some, hbase] at hnext
    cases hnext

/-- The full API of a class grows at its end only, and not at all when the lineage of the class
ended at a class without base. -/
theorem Extends.answer_grows (h : registry.Extends later) {name : String} {api longer : Api}
    (hanswer : registry.answer policy name = .ok api)
    (hlater : later.answer policy name = .ok longer) :
    api.Grows longer ∧ ∀ chain last, registry.IsLineage name chain →
      chain.getLast? = some last → last.base = none → longer = api := by
  obtain ⟨chain, hchain, rfl⟩ := exists_lineage_of_answer hanswer
  obtain ⟨chain', hchain', rfl⟩ := exists_lineage_of_answer hlater
  refine ⟨?_, ?_⟩
  · obtain ⟨more, rfl⟩ := h.lineage_mono hchain hchain'
    exact Api.flatten_grows policy chain more
  · intro other last hother hlast hbase
    obtain rfl := hchain.unique hother
    rw [h.lineage_eq hchain hchain' hlast hbase]

/-! ## Registries of more files -/

theorem declared_append (program more : List SourceFile) (options : Options) :
    declared (program ++ more) options = declared program options ++ declared more options := by
  rw [declared, List.filter_append, List.flatMap_append]
  rfl

theorem firsts_mono (program more : List SourceFile) (options : Options) :
    firsts (declared program options) <+: firsts (declared (program ++ more) options) := by
  rw [declared_append, firsts_append]
  exact List.prefix_append _ _

theorem entries_build_mono (program more : List SourceFile) (options : Options) :
    (build program options).value.classes.entries <+:
      (build (program ++ more) options).value.classes.entries := by
  rw [(holds_build program options).entries, (holds_build (program ++ more) options).entries]
  exact (firsts_mono program more options).map _

theorem extends_build (program more : List SourceFile) (options : Options) :
    (build program options).value.Extends (build (program ++ more) options).value := by
  intro name info hinfo
  obtain ⟨rest, hrest⟩ := entries_build_mono program more options
  rw [get?, OrderedMap.get?] at hinfo
  rw [get?, OrderedMap.get?, ← hrest, List.lookup_append, hinfo, Option.some_or]

/-- A name that belongs to a module stays with it. -/
theorem moduleFor_build (program more : List SourceFile) (options : Options) {name : String}
    {module : Module} (hmodule : (build program options).value.moduleFor name = some module) :
    (build (program ++ more) options).value.moduleFor name = some module := by
  have hmodules : (build program options).value.modules <+:
      (build (program ++ more) options).value.modules := by
    rw [(holds_build program options).modules, (holds_build (program ++ more) options).modules]
    exact (firsts_mono program more options).filterMap _
  obtain ⟨rest, hrest⟩ := hmodules
  rw [(consistent_build program options).owner] at hmodule
  rw [(consistent_build (program ++ more) options).owner, ← hrest, List.find?_append, hmodule,
    Option.some_or]

end Registry

/-! ## The documentation of more files -/

namespace Project

variable {registry later : Registry} {policy : OverridePolicy}

/-- What may become of the documentation of a component of `registry` when files are added. -/
structure Grows (registry : Registry) (doc later : ComponentDoc) : Prop where
  className : later.className = doc.className
  componentName : later.componentName = doc.componentName
  groupName : later.groupName = doc.groupName
  description : later.description = doc.description
  file : later.file = doc.file
  selector : later.selector = doc.selector
  bases : later.bases = doc.bases
  /-- A module may be found for a component that had none. -/
  module : ∀ module, doc.module = some module → later.module = some module
  /-- Members of ancestors that were not known come last. -/
  api : doc.api.Grows later.api
  /-- There are none when the last ancestor was known and has no base. -/
  complete : ∀ chain last, registry.IsLineage doc.className chain → chain.getLast? = some last →
    last.base = none → later.api = doc.api

theorem docOf_grows (hextends : registry.Extends later) {info : ClassInfo} {api longer : Api}
    (hmodule : ∀ module, registry.moduleFor info.name = some module →
      later.moduleFor info.name = some module)
    (hanswer : registry.answer policy info.name = .ok api)
    (hlater : later.answer policy info.name = .ok longer) :
    Grows registry (docOf registry policy info) (docOf later policy info) := by
  obtain ⟨hgrows, hcomplete⟩ := hextends.answer_grows hanswer hlater
  rw [docOf, docOf, hanswer, hlater]
  exact ⟨rfl, rfl, rfl, rfl, rfl, rfl, rfl, hmodule, hgrows, hcomplete⟩

/-- With fewer classes there are fewer cycles to run into. -/
theorem Outcome.exists_ok (hextends : registry.Extends later)
    (hvalues : registry.classes.values ⊆ later.classes.values) {result : Except Cycle Project}
    {whole : Project} (h : Outcome registry policy result)
    (hlater : Outcome later policy (.ok whole)) : ∃ part, result = .ok part := by
  cases h with
  | @documented part => exact ⟨part, rfl⟩
  | @cyclic cycle info hinfo hdocumented hcycle =>
    obtain ⟨hanswers, -, -⟩ := hlater
    obtain ⟨longer, hlonger⟩ := hanswers info (hvalues hinfo) hdocumented
    obtain ⟨api, hok⟩ := hextends.answer_ok hlonger
    rw [hcycle] at hok
    cases hok

/-- Adding files to a program only extends its documentation.  If the longer program can be
documented, so can the shorter one; its components and its other classes come first in their parts.
The other classes are unchanged.  A component may get a module if it had none, and members of
ancestors that were not known, behind those it had. -/
theorem document_append_grows (program more : List SourceFile) (options : Options)
    {whole : Project} (hwhole : (document (program ++ more) options).value = .ok whole) :
    ∃ part, (document program options).value = .ok part ∧
      (∃ first, first <+: whole.components ∧
        List.Forall₂ (Grows (Registry.build program options).value) part.components first) ∧
      part.others.entries <+: whole.others.entries := by
  have hextends := Registry.extends_build program more options
  have hentries := Registry.entries_build_mono program more options
  have hvalues : (Registry.build program options).value.classes.values <+:
      (Registry.build (program ++ more) options).value.classes.values := hentries.map Prod.snd
  have houtcome := outcome_document program options
  have hlater := outcome_document (program ++ more) options
  rw [hwhole] at hlater
  obtain ⟨part, hpart⟩ := houtcome.exists_ok hextends hvalues.subset hlater
  rw [hpart] at houtcome
  obtain ⟨hanswers, hcomponents, hothers⟩ := houtcome
  obtain ⟨hlaterAnswers, hlaterComponents, hlaterOthers⟩ := hlater
  refine ⟨part, hpart, ⟨_, hlaterComponents ▸ (hvalues.filter _).map _, ?_⟩, ?_⟩
  · rw [hcomponents, List.forall₂_map_left_iff, List.forall₂_map_right_iff, List.forall₂_same]
    intro info hinfo
    obtain ⟨hmem, hdocumented⟩ := List.mem_filter.1 hinfo
    obtain ⟨api, hapi⟩ := hanswers info hmem hdocumented
    obtain ⟨longer, hlonger⟩ := hlaterAnswers info (hvalues.subset hmem) hdocumented
    exact docOf_grows hextends (fun module => Registry.moduleFor_build program more options) hapi
      hlonger
  · rw [hothers, hlaterOthers]
    exact hentries.filter _

/-- A documented component whose only property has its name. -/
def componentDecl (name : String) (base : Option String) : ClassDecl :=
  ⟨name, 1, some ("/** @component " ++ name ++ " */"),
    [⟨"Component", "@Component(\x7b\x7d)", [.object []]⟩], base,
    [⟨.property, name, .none, [], none, none⟩]⟩

/-- A module that declares these names. -/
def moduleDecl (name : String) (declared : List String) : ClassDecl :=
  ⟨name, 1, none,
    [⟨"NgModule", "@NgModule(..)", [.object [("declarations", .array (declared.map .name))]]⟩],
    none, []⟩

/-- The components with their modules and the properties of their full APIs. -/
def outline (project : Project) : List (String × Option String × List String) :=
  project.components.map fun doc =>
    (doc.className, doc.module.map Module.name, doc.api.properties.map Property.name)

/-- The base of a component and its module come to be known. -/
theorem document_append_grows_parent :
    let program := [⟨"child.ts", [componentDecl "Child" (some "Parent")]⟩]
    let more := [⟨"parent.ts", [componentDecl "Parent" none, moduleDecl "Module" ["Child"]]⟩]
    ((document program .default).value.map outline).toOption =
        some [("Child", none, ["Child"])] ∧
      ∃ whole, (document (program ++ more) .default).value = .ok whole ∧
        whole.outline =
          [("Child", some "Module", ["Child", "Parent"]), ("Parent", none, ["Parent"])] ∧
        ∃ part, (document program .default).value = .ok part ∧
          (∃ first, first <+: whole.components ∧
            List.Forall₂ (Grows (Registry.build program .default).value) part.components first) ∧
          part.others.entries <+: whole.others.entries := by
  intro program more
  refine ⟨by decide +kernel, ?_⟩
  have houtline : ((document (program ++ more) .default).value.map outline).toOption =
      some [("Child", some "Module", ["Child", "Parent"]), ("Parent", none, ["Parent"])] := by
    decide +kernel
  cases hwhole : (document (program ++ more) .default).value with
  | error cycle =>
    rw [hwhole] at houtline
    cases houtline
  | ok whole =>
    rw [hwhole] at houtline
    exact ⟨whole, rfl, Option.some.inj houtline,
      document_append_grows program more .default hwhole⟩

end Project

end ComponentDocs
