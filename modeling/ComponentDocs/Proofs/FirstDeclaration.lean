import ComponentDocs.Proofs.Registration
import Mathlib.Data.List.Basic
import Mathlib.Data.List.Induction
import Mathlib.Data.List.Nodup

/-!
# The first declaration of a name counts

The registry is filled class by class while the files are read, and three tables change on the way.
Here the whole of it is compared with the list of the classes themselves: `declared` lists the
classes of the files that take part, and `firsts` keeps the first of each name.

* `eraseDups_concat` is what one more name does to a list that keeps the first of each.
* `value_build` turns the two loops, over files and over the classes of a file, into one.
* `Holds` says what the registry has taken in after some classes, without mentioning the loop.
  `Holds.addClass` is its step and `holds_build` the whole run.

The map of owners needs no account of its own: `Consistent` ties it to the list of modules.
-/

namespace ComponentDocs

/-! ## First occurrences -/

/-- A name that comes up again is not listed again. -/
theorem eraseDups_concat (names : List String) (name : String) :
    (names ++ [name]).eraseDups =
      if name ∈ names then names.eraseDups else names.eraseDups ++ [name] := by
  rw [List.eraseDups_append, List.removeAll]
  by_cases hname : name ∈ names
  · rw [if_pos hname, List.filter_cons_of_neg (by simpa using hname)]
    exact List.append_nil _
  · rw [if_neg hname, List.filter_cons_of_pos (by simpa using hname)]
    rfl

theorem nodup_eraseDups (names : List String) : names.eraseDups.Nodup := by
  induction names using List.reverseRecOn with
  | nil => exact List.nodup_nil
  | append_singleton names name ih =>
    rw [eraseDups_concat]
    split
    · exact ih
    · rename_i hnew
      rw [← List.concat_eq_append]
      exact ih.concat fun hmem => hnew (List.mem_eraseDups.1 hmem)

namespace Registry

/-- A class together with the name under which its file is reported. -/
structure Declared where
  file : String
  decl : ClassDecl

namespace Declared

def name (declared : Declared) : String :=
  declared.decl.name

/-- The registry entry of the class. -/
def info (options : Options) (declared : Declared) : ClassInfo :=
  (declared.decl.info options declared.file).value

/-- The module that the class declares. -/
def module? (options : Options) (declared : Declared) : Option Module :=
  declared.decl.module? options declared.file

end Declared

/-- The classes of the files that take part, file by file. -/
def declared (program : List SourceFile) (options : Options) : List Declared :=
  (program.filter fun file => options.includes file.name).flatMap fun file =>
    file.classes.map fun decl => ⟨options.relativeName file.name, decl⟩

/-- The first class of each name, in the order in which the names come up. -/
def firsts (classes : List Declared) : List Declared :=
  (classes.map Declared.name).eraseDups.filterMap fun name =>
    classes.find? fun declared => declared.name == name

/-! ## First classes -/

/-- Among more classes, only those with new names count. -/
theorem firsts_append (classes more : List Declared) :
    firsts (classes ++ more) =
      firsts classes ++
        firsts (more.filter fun declared => declared.name ∉ classes.map Declared.name) := by
  have hremove : (more.map Declared.name).removeAll (classes.map Declared.name) =
      (more.filter fun declared => declared.name ∉ classes.map Declared.name).map
        Declared.name := by
    rw [List.removeAll, List.filter_map]
    refine congrArg (List.map Declared.name) (List.filter_congr fun declared _ => ?_)
    simp only [Function.comp_apply, List.elem_eq_mem, decide_not]
  rw [firsts, List.map_append, List.eraseDups_append, List.filterMap_append, hremove]
  congr 1
  · refine List.filterMap_congr fun name hname => ?_
    obtain ⟨declared, hdeclared, hsame⟩ := List.mem_map.1 (List.mem_eraseDups.1 hname)
    have hfirst : (classes.find? fun declared => declared.name == name).isSome = true :=
      List.find?_isSome.2 ⟨declared, hdeclared, beq_iff_eq.2 hsame⟩
    rw [List.find?_append, Option.or_of_isSome hfirst]
  · refine List.filterMap_congr fun name hname => ?_
    obtain ⟨declared, hdeclared, rfl⟩ := List.mem_map.1 (List.mem_eraseDups.1 hname)
    have hnew : declared.name ∉ classes.map Declared.name := by
      simpa using (List.mem_filter.1 hdeclared).2
    have hnone : (classes.find? fun other => other.name == declared.name) = none := by
      rw [List.find?_eq_none]
      intro other hother hsame
      exact hnew (List.mem_map.2 ⟨other, hother, eq_of_beq hsame⟩)
    rw [List.find?_append, hnone, Option.none_or, List.find?_filter]
    congr 1
    funext other
    by_cases hsame : other.name = declared.name
    · simp only [hsame, hnew, not_false_eq_true, decide_true, beq_self_eq_true, and_self]
    · simp only [beq_false_of_ne hsame, Bool.false_eq_true, and_false, decide_false]

theorem firsts_singleton (declared : Declared) : firsts [declared] = [declared] := by
  simp [firsts, List.eraseDups_cons]

theorem firsts_concat (classes : List Declared) (declared : Declared) :
    firsts (classes ++ [declared]) =
      if declared.name ∈ classes.map Declared.name then firsts classes
      else firsts classes ++ [declared] := by
  rw [firsts_append]
  by_cases hname : declared.name ∈ classes.map Declared.name
  · rw [if_pos hname, List.filter_cons_of_neg (by simpa using hname)]
    exact List.append_nil _
  · rw [if_neg hname, List.filter_cons_of_pos (by simpa using hname), List.filter_nil,
      firsts_singleton]

/-- Every name is kept once, where it comes up first. -/
theorem map_name_firsts (classes : List Declared) :
    (firsts classes).map Declared.name = (classes.map Declared.name).eraseDups := by
  induction classes using List.reverseRecOn with
  | nil => rfl
  | append_singleton classes declared ih =>
    rw [firsts_concat, List.map_append, List.map_singleton, eraseDups_concat]
    split
    · exact ih
    · rw [List.map_append, ih, List.map_singleton]

theorem mem_name_firsts {classes : List Declared} {name : String} :
    name ∈ (firsts classes).map Declared.name ↔ name ∈ classes.map Declared.name := by
  rw [map_name_firsts, List.mem_eraseDups]

theorem firsts_of_nodup {classes : List Declared}
    (hnodup : (classes.map Declared.name).Nodup) : firsts classes = classes := by
  induction classes using List.reverseRecOn with
  | nil => rfl
  | append_singleton classes declared ih =>
    rw [List.map_append, List.nodup_append] at hnodup
    have hnew : declared.name ∉ classes.map Declared.name := fun hname =>
      hnodup.2.2 _ hname _ (by simp) rfl
    rw [firsts_concat, if_neg hnew, ih hnodup.1]

/-! ## Filling the registry -/

/-- The registry has taken in `classes`: the first of each name with its module, and no other. -/
structure Holds (options : Options) (classes : List Declared) (registry : Registry) : Prop where
  entries : registry.classes.entries =
    (firsts classes).map fun declared => (declared.name, declared.info options)
  modules : registry.modules = (firsts classes).filterMap (Declared.module? options)

variable {options : Options} {classes : List Declared} {registry : Registry}

theorem Holds.keys (h : Holds options classes registry) :
    registry.classes.keys = (firsts classes).map Declared.name := by
  rw [OrderedMap.keys, h.entries, List.map_map]
  rfl

theorem Holds.get?_eq_none_iff (h : Holds options classes registry) {name : String} :
    registry.get? name = none ↔ name ∉ classes.map Declared.name := by
  rw [get?, OrderedMap.get?_eq_none_iff, h.keys, mem_name_firsts]

theorem holds_empty : Holds options [] empty :=
  ⟨rfl, rfl⟩

theorem Holds.addClass (h : Holds options classes registry) (declared : Declared) :
    Holds options (classes ++ [declared])
      (addClass options declared.file registry declared.decl).value := by
  unfold Registry.addClass
  cases hname : registry.get? declared.decl.name with
  | some first =>
    have hknown : declared.name ∈ classes.map Declared.name := by
      by_contra hnew
      have hnone : registry.get? declared.decl.name = none := h.get?_eq_none_iff.2 hnew
      rw [hname] at hnone
      cases hnone
    have hfirsts : firsts (classes ++ [declared]) = firsts classes := by
      rw [firsts_concat, if_pos hknown]
    exact ⟨hfirsts ▸ h.entries, hfirsts ▸ h.modules⟩
  | none =>
    have hnew : declared.name ∉ classes.map Declared.name := h.get?_eq_none_iff.1 hname
    have hfirsts : firsts (classes ++ [declared]) = firsts classes ++ [declared] := by
      rw [firsts_concat, if_neg hnew]
    have hinsert := OrderedMap.entries_insert_of_notMem (OrderedMap.get?_eq_none_iff.1 hname)
      (declared.info options)
    have hentries : (registry.classes.insert declared.name (declared.info options)).entries =
        (firsts (classes ++ [declared])).map fun declared =>
          (declared.name, declared.info options) := by
      rw [hfirsts, List.map_append, ← h.entries]
      exact hinsert
    cases hmodule : declared.decl.module? options declared.file with
    | none =>
      refine ⟨hentries, ?_⟩
      rw [hfirsts, List.filterMap_append, ← h.modules]
      simp [Declared.module?, hmodule]
    | some module =>
      refine ⟨hentries, ?_⟩
      rw [hfirsts, List.filterMap_append, ← h.modules]
      simp [Declared.module?, hmodule, addModule]

/-- Reading file by file is reading the classes of the files that take part one after the other. -/
theorem value_build (program : List SourceFile) (options : Options) :
    (build program options).value =
      (declared program options).foldl
        (fun registry declared =>
          (addClass options declared.file registry declared.decl).value) empty := by
  have hfile : ∀ (registry : Registry) (file : SourceFile),
      (addFile options registry file).value =
        if options.includes file.name then
          file.classes.foldl (fun registry decl =>
            (addClass options (options.relativeName file.name) registry decl).value) registry
        else registry := by
    intro registry file
    unfold addFile
    split
    · rw [Logged.value_foldlM]
    · rfl
  rw [declared, List.foldl_flatMap, List.foldl_filter, build, Logged.value_bind,
    Logged.value_foldlM]
  simp only [hfile, List.foldl_map]
  rfl

theorem holds_build (program : List SourceFile) (options : Options) :
    Holds options (declared program options) (build program options).value := by
  have hrun : ∀ (more classes : List Declared) (registry : Registry),
      Holds options classes registry →
      Holds options (classes ++ more) (more.foldl (fun registry declared =>
        (Registry.addClass options declared.file registry declared.decl).value) registry) := by
    intro more
    induction more with
    | nil =>
      intro classes registry h
      rwa [List.append_nil]
    | cons declared more ih =>
      intro classes registry h
      rw [List.append_cons]
      exact ih _ _ (h.addClass declared)
  rw [value_build]
  exact hrun _ [] empty holds_empty

/-! ## Modules -/

/-- A class declares a module when the first argument of its first module decorator is an object
whose first `declarations` are an array. -/
theorem module?_eq_some_iff {declared : Declared} {module : Module} :
    declared.module? options = some module ↔
      ∃ decorator entries items,
        (declared.decl.decorators.find? fun decorator =>
          options.isModuleDecorator decorator.name) = some decorator ∧
        decorator.arguments.head? = some (.object entries) ∧
        entries.lookup "declarations" = some (.array items) ∧
        module = ⟨declared.name, declared.file, items.filterMap Expr.name?⟩ := by
  have hfield : ∀ (config : Expr) (items : List Expr),
      (config.field? "declarations").bind Expr.array? = some items ↔
        ∃ entries, config = .object entries ∧
          entries.lookup "declarations" = some (.array items) := by
    intro config items
    cases config with
    | object entries =>
      simp only [Expr.field?, Expr.object.injEq, exists_eq_left', Option.bind_eq_some_iff]
      constructor
      · rintro ⟨value, hvalue, harray⟩
        cases value <;> cases harray
        exact hvalue
      · intro hvalue
        exact ⟨_, hvalue, rfl⟩
    | _ => simp [Expr.field?]
  unfold Declared.module? ClassDecl.module?
  simp only [Option.bind_eq_bind, Option.bind_eq_some_iff, Option.pure_def, Option.some.injEq,
    hfield]
  constructor
  · rintro ⟨decorator, hdecorator, config, hconfig, items, ⟨entries, rfl, hlookup⟩, rfl⟩
    exact ⟨decorator, entries, items, hdecorator, hconfig, hlookup, rfl⟩
  · rintro ⟨decorator, entries, items, hdecorator, hconfig, hlookup, rfl⟩
    exact ⟨decorator, hdecorator, _, hconfig, items, ⟨entries, rfl, hlookup⟩, rfl⟩

/-- The first declaration counts everywhere.  The classes of a registry are the first ones of each
name among the classes of the files that take part, in that order; its modules are those that these
classes declare, in the same order; a name belongs to the first of these modules that declares it,
and to none only if none does.  Files that do not take part could as well be missing. -/
theorem build_eq_first_declarations (program : List SourceFile) (options : Options) :
    let registry := (build program options).value
    let kept := firsts (declared program options)
    registry.classes.entries =
        kept.map (fun declared => (declared.name, declared.info options)) ∧
      registry.modules = kept.filterMap (Declared.module? options) ∧
      (∀ (declared : Declared) (module : Module), declared.module? options = some module ↔
        ∃ decorator entries items,
          (declared.decl.decorators.find? fun decorator =>
            options.isModuleDecorator decorator.name) = some decorator ∧
          decorator.arguments.head? = some (.object entries) ∧
          entries.lookup "declarations" = some (.array items) ∧
          module = ⟨declared.name, declared.file, items.filterMap Expr.name?⟩) ∧
      (∀ name, registry.moduleFor name =
        registry.modules.find? fun module => module.declares name) ∧
      (∀ name, registry.moduleFor name = none ↔
        ∀ module ∈ registry.modules, module.declares name = false) ∧
      (build (program.filter fun file => options.includes file.name) options).value =
        registry := by
  intro registry kept
  have hholds : Holds options (declared program options) registry := holds_build program options
  have howner := (consistent_build program options).owner
  refine ⟨hholds.entries, hholds.modules, fun _ _ => module?_eq_some_iff, howner, ?_, ?_⟩
  · intro name
    rw [howner, List.find?_eq_none]
    simp only [Bool.not_eq_true]
    rfl
  · have hsame : declared (program.filter fun file => options.includes file.name) options =
        declared program options := by
      simp only [declared, List.filter_filter, Bool.and_self]
    rw [value_build, hsame, ← value_build]

end Registry

end ComponentDocs
