import ComponentDocs.Registry

/-!
# The tables of a registry agree

A registry keeps its classes by name, its modules in a list and the owner of each declared name in
a map of its own.  `Consistent` says that these tables fit together: a class stands under its own
name and is marked as documented when it is registered and has a `@component` tag, and the owner of
a name is the first module of the list that declares it.  Adding a class
keeps this (`Consistent.addClass`), so it holds of the registry of every program
(`consistent_build`).
-/

namespace ComponentDocs.Registry

structure Consistent (registry : Registry) : Prop where
  /-- A class stands under its own name. -/
  named : ∀ entry ∈ registry.classes.entries, entry.2.name = entry.1
  /-- A documented component is registered as a component and named by a `@component` tag. -/
  marked : ∀ entry ∈ registry.classes.entries,
    entry.2.isDocumented = (entry.2.registration.isSome && entry.2.tags.component.isSome)
  /-- The owner of a name is the first module that declares it. -/
  owner : ∀ name, registry.moduleFor name =
    registry.modules.find? fun module => module.declares name

variable {registry : Registry}

theorem consistent_empty : Consistent empty :=
  ⟨by simp [empty, OrderedMap.empty], by simp [empty, OrderedMap.empty], fun _ => rfl⟩

/-! ## Adding a module -/

/-- A module becomes the owner of those of its names that have none yet. -/
theorem get?_foldl_insertNew (module : Module) (owners : OrderedMap Module) (names : List String)
    (name : String) :
    (names.foldl (fun owners name => owners.insertNew name module) owners).get? name =
      (owners.get? name).or (if name ∈ names then some module else none) := by
  induction names generalizing owners with
  | nil => simp
  | cons first names ih =>
    rw [List.foldl_cons, ih, OrderedMap.get?_insertNew, Option.or_assoc]
    by_cases hfirst : name = first
    · simp [hfirst]
    · simp [hfirst]

theorem Consistent.addModule (h : registry.Consistent) (module : Module) :
    (registry.addModule module).Consistent := by
  refine ⟨h.named, h.marked, ?_⟩
  intro name
  have hdeclares : ([module].find? fun module => module.declares name) =
      if name ∈ module.declared then some module else none := by
    by_cases hmem : name ∈ module.declared <;> simp [Module.declares, hmem]
  rw [moduleFor, Registry.addModule, get?_foldl_insertNew, List.find?_append, hdeclares, ← h.owner]
  rfl

/-! ## Adding classes -/

theorem Consistent.insert (h : registry.Consistent) {info : ClassInfo}
    (hnew : registry.get? info.name = none)
    (hmark : info.isDocumented = (info.registration.isSome && info.tags.component.isSome)) :
    Consistent { registry with classes := registry.classes.insert info.name info } := by
  have hentries := OrderedMap.entries_insert_of_notMem (OrderedMap.get?_eq_none_iff.1 hnew) info
  refine ⟨?_, ?_, h.owner⟩
  · intro entry hentry
    rw [hentries, List.mem_append, List.mem_singleton] at hentry
    rcases hentry with hentry | rfl
    · exact h.named entry hentry
    · rfl
  · intro entry hentry
    rw [hentries, List.mem_append, List.mem_singleton] at hentry
    rcases hentry with hentry | rfl
    · exact h.marked entry hentry
    · exact hmark

theorem Consistent.addClass (h : registry.Consistent) (options : Options) (file : String)
    (decl : ClassDecl) : (addClass options file registry decl).value.Consistent := by
  unfold Registry.addClass
  cases hname : registry.get? decl.name with
  | some first => exact h
  | none =>
    cases decl.module? options file with
    | none => exact h.insert hname rfl
    | some module => exact (h.addModule module).insert hname rfl

theorem Consistent.addFile (h : registry.Consistent) (options : Options) (file : SourceFile) :
    (addFile options registry file).value.Consistent := by
  unfold Registry.addFile
  split
  · rw [Logged.value_foldlM]
    generalize file.classes = decls
    induction decls generalizing registry with
    | nil => exact h
    | cons decl decls ih => exact ih (h.addClass options _ decl)
  · exact h

theorem consistent_build (program : List SourceFile) (options : Options) :
    (build program options).value.Consistent := by
  have hrun : ∀ registry : Registry, registry.Consistent →
      (program.foldlM (Registry.addFile options) registry).value.Consistent := by
    intro registry h
    rw [Logged.value_foldlM]
    induction program generalizing registry with
    | nil => exact h
    | cons file program ih => exact ih _ (h.addFile options file)
  exact hrun empty consistent_empty

/-! ## Looking up classes -/

/-- The values of the classes are found under their names. -/
theorem Consistent.get?_name (h : registry.Consistent) {info : ClassInfo}
    (hinfo : info ∈ registry.classes.values) : registry.get? info.name = some info := by
  obtain ⟨entry, hentry, rfl⟩ := List.mem_map.1 hinfo
  refine OrderedMap.get?_of_mem ?_
  rw [h.named entry hentry]
  exact hentry

theorem Consistent.isDocumented_eq (h : registry.Consistent) {info : ClassInfo}
    (hinfo : info ∈ registry.classes.values) :
    info.isDocumented = (info.registration.isSome && info.tags.component.isSome) := by
  obtain ⟨entry, hentry, rfl⟩ := List.mem_map.1 hinfo
  exact h.marked entry hentry

theorem Consistent.name_of_get? (h : registry.Consistent) {name : String} {info : ClassInfo}
    (hinfo : registry.get? name = some info) : info.name = name := by
  obtain ⟨before, after, hsplit, -⟩ := List.lookup_eq_some_iff.1 hinfo
  exact h.named (name, info) (by rw [hsplit]; simp)

theorem Consistent.map_name_values (h : registry.Consistent) :
    registry.classes.values.map ClassInfo.name = registry.classes.keys := by
  rw [OrderedMap.values, OrderedMap.keys, List.map_map]
  exact List.map_congr_left h.named

end ComponentDocs.Registry
