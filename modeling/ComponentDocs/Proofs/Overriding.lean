import ComponentDocs.Proofs.Resolution
import Mathlib.Data.List.Induction

/-!
# Members that are declared again

When the members of a class win over those of its ancestors, inherited members are left out level by
level: each class is compared with the full API of its base, from which members have been left out
already.  Seen as a whole, the result needs no levels.  The own members are kept, and of all inherited
members together the first one of each name that the class does not have itself.

* `Api.unlisted` says which inherited members these are, by their places in the list.
* `Api.appendNew_appendNew` is the step from one level to the next: leaving members out before or after
  makes no difference.
* `Registry.resolve_childWins_eq_append_unlisted` is the result for requests, compared with the answer
  that keeps every member.
-/

namespace ComponentDocs

namespace Api

variable {α : Type} (name : α → String)

/-- The inherited members, in order, whose name neither one of the own members has nor an inherited
member before them. -/
def unlisted (own inherited : List α) : List α :=
  (inherited.zipIdx.filter fun (item, i) =>
    name item ∉ own.map name ∧ name item ∉ (inherited.take i).map name).map Prod.fst

theorem unlisted_nil (own : List α) : unlisted name own [] = [] :=
  rfl

/-- Whether a member counts does not depend on those behind it. -/
theorem unlisted_concat (own inherited : List α) (item : α) :
    unlisted name own (inherited ++ [item]) =
      if name item ∈ own.map name ∨ name item ∈ inherited.map name then unlisted name own inherited
      else unlisted name own inherited ++ [item] := by
  have hbefore : (inherited.zipIdx.filter fun (other, i) => name other ∉ own.map name ∧
        name other ∉ ((inherited ++ [item]).take i).map name) =
      inherited.zipIdx.filter fun (other, i) => name other ∉ own.map name ∧
        name other ∉ (inherited.take i).map name := by
    refine List.filter_congr fun (other, i) hother => ?_
    have hi : i ≤ inherited.length := Nat.le_of_lt (by simpa using List.snd_lt_of_mem_zipIdx hother)
    simp only [List.take_append_of_le_length hi]
  have hlast : (([item].zipIdx (0 + inherited.length)).filter fun (other, i) =>
        name other ∉ own.map name ∧ name other ∉ ((inherited ++ [item]).take i).map name) =
      if name item ∈ own.map name ∨ name item ∈ inherited.map name then []
      else [(item, inherited.length)] := by
    rw [Nat.zero_add, List.zipIdx_singleton, List.filter_singleton]
    simp only [List.take_left, ← not_or, decide_not]
    by_cases hlisted : name item ∈ own.map name ∨ name item ∈ inherited.map name
    · rw [if_pos hlisted, decide_eq_true hlisted]
      rfl
    · rw [if_neg hlisted, decide_eq_false hlisted]
      rfl
  rw [unlisted, List.zipIdx_append, List.filter_append, List.map_append, hbefore, hlast, ← unlisted]
  split
  · rw [List.map_nil, List.append_nil]
  · rfl

/-! ## One level -/

theorem appendNew_nil (listed : List α) : appendNew name listed [] = listed :=
  rfl

theorem appendNew_concat (listed more : List α) (item : α) :
    appendNew name listed (more ++ [item]) =
      if name item ∈ (appendNew name listed more).map name then appendNew name listed more
      else appendNew name listed more ++ [item] := by
  have hany : ∀ known : List α, (known.any fun other => name other == name item) = true ↔
      name item ∈ known.map name := by
    intro known
    simp only [List.any_eq_true, beq_iff_eq, List.mem_map]
  rw [appendNew, List.foldl_append, List.foldl_cons, List.foldl_nil]
  simp only [hany]
  rfl

/-- Every name is listed in the end. -/
theorem mem_names_appendNew {listed more : List α} {label : String} :
    label ∈ (appendNew name listed more).map name ↔
      label ∈ listed.map name ∨ label ∈ more.map name := by
  induction more using List.reverseRecOn with
  | nil => simp [appendNew_nil]
  | append_singleton more item ih =>
    rw [appendNew_concat, List.map_append, List.mem_append, List.map_singleton, List.mem_singleton]
    split
    · rename_i hlisted
      rw [ih, ← or_assoc]
      refine ⟨.inl, fun h => h.elim id ?_⟩
      rintro rfl
      exact ih.1 hlisted
    · rw [List.map_append, List.mem_append, List.map_singleton, List.mem_singleton, ih, or_assoc]

theorem appendNew_eq_append_unlisted (own inherited : List α) :
    appendNew name own inherited = own ++ unlisted name own inherited := by
  induction inherited using List.reverseRecOn with
  | nil => rw [appendNew_nil, unlisted_nil, List.append_nil]
  | append_singleton inherited item ih =>
    rw [appendNew_concat, unlisted_concat]
    simp only [mem_names_appendNew]
    split
    · exact ih
    · rw [ih, List.append_assoc]

/-- Members that are left out on one level would be left out on the next. -/
theorem appendNew_appendNew (listed own inherited : List α) :
    appendNew name listed (appendNew name own inherited) =
      appendNew name listed (own ++ inherited) := by
  induction inherited using List.reverseRecOn with
  | nil => rw [appendNew_nil, List.append_nil]
  | append_singleton inherited item ih =>
    rw [appendNew_concat, ← List.append_assoc, appendNew_concat]
    by_cases hown : name item ∈ (appendNew name own inherited).map name
    · have hlisted : name item ∈ (appendNew name listed (own ++ inherited)).map name := by
        rw [mem_names_appendNew, List.map_append, List.mem_append]
        exact .inr ((mem_names_appendNew name).1 hown)
      rw [if_pos hown, if_pos hlisted, ih]
    · rw [if_neg hown, appendNew_concat, ih]

/-! ## All levels -/

/-- `kept` are the members of a class, given level by level with its own ones first, when names of the
class itself and of nearer ancestors win; `all` are the members of all levels. -/
structure FirstOccurrences (levels : List (List α)) (kept all : List α) : Prop where
  all_eq : all = levels.flatten
  kept_eq : kept = levels.headD [] ++ unlisted name (levels.headD []) levels.tail.flatten
  sublist : kept.Sublist all
  names : ∀ label, label ∈ kept.map name ↔ label ∈ all.map name
  /-- Behind the own members no name comes twice, -/
  nodup : ((kept.drop (levels.headD []).length).map name).Nodup
  /-- and none comes that an own member has. -/
  disjoint : ∀ label ∈ (kept.drop (levels.headD []).length).map name,
    label ∉ (levels.headD []).map name

theorem unlisted_sublist (own inherited : List α) :
    (unlisted name own inherited).Sublist inherited := by
  have hfilter := (List.filter_sublist (p := fun (item, i) => decide (name item ∉ own.map name ∧
    name item ∉ (inherited.take i).map name)) (l := inherited.zipIdx)).map Prod.fst
  rwa [List.zipIdx_map_fst] at hfilter

theorem notMem_names_of_mem_unlisted {own inherited : List α} {item : α}
    (hitem : item ∈ unlisted name own inherited) : name item ∉ own.map name := by
  obtain ⟨⟨found, i⟩, hfound, rfl⟩ := List.mem_map.1 hitem
  have hnew := (List.mem_filter.1 hfound).2
  exact (of_decide_eq_true hnew).1

theorem nodup_names_unlisted (own inherited : List α) :
    ((unlisted name own inherited).map name).Nodup := by
  induction inherited using List.reverseRecOn with
  | nil => exact List.nodup_nil
  | append_singleton inherited item ih =>
    rw [unlisted_concat]
    split
    · exact ih
    · rename_i hnew
      rw [List.map_append, List.nodup_append]
      refine ⟨ih, List.nodup_singleton _, fun label hlabel other hother => ?_⟩
      rw [List.map_singleton, List.mem_singleton] at hother
      rintro rfl
      have hsub := (unlisted_sublist name own inherited).map name
      exact hnew (.inr (hother ▸ hsub.subset hlabel))

/-- Adding the levels from the last one on, each below the others, keeps the first occurrences. -/
theorem firstOccurrences_foldr (levels : List (List α)) :
    FirstOccurrences name levels (levels.foldr (appendNew name) []) levels.flatten := by
  have hkept : levels.foldr (appendNew name) [] =
      levels.headD [] ++ unlisted name (levels.headD []) levels.tail.flatten := by
    induction levels with
    | nil => rfl
    | cons own levels ih =>
      rw [List.foldr_cons, ih, List.headD_cons, List.tail_cons, ← appendNew_eq_append_unlisted,
        ← appendNew_eq_append_unlisted, appendNew_appendNew]
      cases levels <;> rfl
  have hflatten : levels.flatten = levels.headD [] ++ levels.tail.flatten := by
    cases levels <;> rfl
  refine ⟨rfl, hkept, ?_, fun label => ?_, ?_, ?_⟩
  · rw [hkept, hflatten]
    exact (unlisted_sublist name _ _).append_left _
  · rw [hkept, ← appendNew_eq_append_unlisted, mem_names_appendNew, hflatten, List.map_append,
      List.mem_append]
  · rw [hkept, List.drop_left]
    exact nodup_names_unlisted name _ _
  · rw [hkept, List.drop_left]
    intro label hlabel
    obtain ⟨item, hitem, rfl⟩ := List.mem_map.1 hlabel
    exact notMem_names_of_mem_unlisted name hitem

theorem properties_flatten_childWins (chain : List ClassInfo) :
    (flatten .childWins chain).properties =
      (chain.map fun info => info.own.properties).foldr (appendNew Property.name) [] := by
  rw [List.foldr_map]
  induction chain with
  | nil => rfl
  | cons info chain ih => exact congrArg (appendNew Property.name info.own.properties) ih

theorem methods_flatten_childWins (chain : List ClassInfo) :
    (flatten .childWins chain).methods =
      (chain.map fun info => info.own.methods).foldr (appendNew Method.name) [] := by
  rw [List.foldr_map]
  induction chain with
  | nil => rfl
  | cons info chain ih => exact congrArg (appendNew Method.name info.own.methods) ih

end Api

namespace Registry

/-- When the way to the bases ends, a request answers the flattened lineage. -/
theorem Idle.exists_lineage {registry : Registry} {policy : OverridePolicy} {resolver : Resolver}
    (hidle : registry.Idle policy resolver) {name : String}
    (hends : ∀ i j, ¬ registry.Revisits name i j) :
    ∃ chain, registry.IsLineage name chain ∧
      (registry.resolve policy resolver name).value.1 = .ok (.flatten policy chain) := by
  have hanswers := hidle.answers name
  generalize (registry.resolve policy resolver name).value = answer at hanswers ⊢
  cases hanswers with
  | @flattened chain after hchain hvalid hvisiting => exact ⟨chain, hchain, rfl⟩
  | cyclic hfirst hcycle => exact absurd hfirst.1 (hends _ _)

/-- A class wins over its ancestors name by name.  When the way from the class meets no registered
class twice, then after any requests before, its properties are the own ones and of those inherited
the first of each new name, and so are its methods, each compared with all members of the lineage,
which is what a request answers that keeps them all. -/
theorem resolve_childWins_eq_append_unlisted (registry : Registry) (earlier : List String)
    (name : String) (hends : ∀ i j, ¬ registry.Revisits name i j) :
    ∃ chain kept all, registry.IsLineage name chain ∧
      (registry.resolve .childWins (registry.resolverAfter .childWins earlier) name).value.1 =
        .ok kept ∧
      (registry.resolve .concatenate (registry.resolverAfter .concatenate earlier) name).value.1 =
        .ok all ∧
      Api.FirstOccurrences Property.name (chain.map fun info => info.own.properties)
        kept.properties all.properties ∧
      Api.FirstOccurrences Method.name (chain.map fun info => info.own.methods)
        kept.methods all.methods := by
  have hkept : registry.Idle .childWins _ := idle_resolverAfter earlier
  have hall : registry.Idle .concatenate _ := idle_resolverAfter earlier
  obtain ⟨chain, hchain, hkeptAnswer⟩ := hkept.exists_lineage hends
  obtain ⟨other, hother, hallAnswer⟩ := hall.exists_lineage hends
  obtain rfl := hchain.unique hother
  refine ⟨chain, _, _, hchain, hkeptAnswer, hallAnswer, ?_, ?_⟩
  · rw [Api.properties_flatten_childWins, Api.flatten_concatenate, List.flatMap_def]
    exact Api.firstOccurrences_foldr Property.name _
  · rw [Api.methods_flatten_childWins, Api.flatten_concatenate, List.flatMap_def]
    exact Api.firstOccurrences_foldr Method.name _

/-- The registry of classes with these bases and methods. -/
def ofMethods (classes : List (String × Option String × List String)) : Registry :=
  ⟨classes.foldl (fun known (name, base, methods) =>
      known.insert name
        ⟨name, "", false, base, ⟨[], methods.map fun method => ⟨method, [], "", none⟩⟩,
          ⟨.empty, ""⟩, none⟩) .empty,
    [], .empty⟩

/-- Overloads of the class itself are kept, those of an ancestor are not, and a method of the root is
left out because a class between declares it too. -/
theorem resolve_childWins_eq_append_unlisted_overloads :
    let registry := ofMethods [("Leaf", some "Middle", ["a()", "a()"]),
      ("Middle", some "Root", ["b()", "a()", "b()"]), ("Root", none, ["c()", "b()"])]
    (∀ i j, ¬ registry.Revisits "Leaf" i j) ∧
      ∃ kept all, (registry.resolve .childWins (registry.resolverAfter .childWins ["Root"])
          "Leaf").value.1 = .ok kept ∧
        kept.methods.map Method.name = ["a()", "a()", "b()", "c()"] ∧
        (registry.resolve .concatenate (registry.resolverAfter .concatenate ["Root"])
          "Leaf").value.1 = .ok all ∧
        kept.methods.Sublist all.methods := by
  intro registry
  let info : String → Option String → List String → ClassInfo := fun name base methods =>
    ⟨name, "", false, base, ⟨[], methods.map fun method => ⟨method, [], "", none⟩⟩,
      ⟨.empty, ""⟩, none⟩
  have hleaf : registry.get? "Leaf" = some (info "Leaf" (some "Middle") ["a()", "a()"]) := by
    decide +kernel
  have hmiddle : registry.get? "Middle" =
      some (info "Middle" (some "Root") ["b()", "a()", "b()"]) := by decide +kernel
  have hroot : registry.get? "Root" = some (info "Root" none ["c()", "b()"]) := by decide +kernel
  have hends := (((isLineage_singleton hroot rfl).cons hmiddle rfl).cons hleaf rfl).not_revisits
  obtain ⟨chain, kept, all, hchain, hkept, hall, -, hmethods⟩ :=
    resolve_childWins_eq_append_unlisted registry ["Root"] "Leaf" hends
  obtain rfl := hchain.unique (((isLineage_singleton hroot rfl).cons hmiddle rfl).cons hleaf rfl)
  refine ⟨hends, kept, all, hkept, ?_, hall, hmethods.sublist⟩
  rw [hmethods.kept_eq]
  decide +kernel

end Registry

end ComponentDocs
