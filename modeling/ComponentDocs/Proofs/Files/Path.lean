import ComponentDocs.Files.Path
import Mathlib.Data.List.Forall2
import Mathlib.Data.List.Nodup

/-!
# The order of paths

Paths are ordered by the lists of their parts, lexicographically, and parts are ordered linearly
(`Part.order_eq`, `orderParts_eq`).  So `Path.order` is total and transitive, and it takes two paths
for equal exactly when they have the same parts (`same_iff`).  Sorting therefore puts the same
paths next to each other, where `dropRepeats` sees them: what is left is strictly increasing
(`increasing_dropRepeats_sort`) and has the parts of every path (`mem_map_parts_dropRepeats_sort`).
A strictly increasing list is determined by the parts of its paths
(`Increasing.forall₂_same`).
-/

namespace ComponentDocs.Path

/-! ## Parts -/

namespace Part

/-- The text of a name. -/
def text : Part → String
  | .name text => text
  | _ => ""

/-- Parts are ordered by rank, and names then by their texts. -/
theorem order_eq : order = compareLex (compareOn rank) (compareOn text) := by
  funext p q
  cases p <;> cases q <;> rfl

instance : Std.TransCmp order := by
  rw [order_eq]
  infer_instance

instance : Std.LawfulEqCmp order where
  eq_of_compare {p q} h := by
    rw [order_eq, compareLex, Ordering.then_eq_eq] at h
    obtain ⟨hrank, htext⟩ := h
    have hrank : p.rank = q.rank := Std.LawfulEqCmp.eq_of_compare hrank
    have htext : p.text = q.text := Std.LawfulEqCmp.eq_of_compare htext
    cases p <;> cases q <;> simp_all [rank, text]

end Part

theorem orderParts_eq : orderParts = List.compareLex Part.order := by
  funext ps qs
  induction ps generalizing qs with
  | nil => cases qs <;> rfl
  | cons p ps ih =>
    cases qs with
    | nil => rfl
    | cons q qs => rw [orderParts, ih, List.compareLex_cons_cons]

instance : Std.TransCmp orderParts := by
  rw [orderParts_eq]
  infer_instance

instance : Std.LawfulEqCmp orderParts := by
  rw [orderParts_eq]
  infer_instance

/-! ## Paths -/

instance : Std.TransCmp order where
  eq_swap {a b} := by
    rw [order, order]
    exact Std.OrientedCmp.eq_swap
  isLE_trans {a b c} := by
    rw [order, order, order]
    exact Std.TransCmp.isLE_trans

variable {paths others : List String}

theorem same_iff {a b : String} : same a b = true ↔ parts a = parts b := by
  rw [same, beq_iff_eq, order]
  exact Std.LawfulEqCmp.compare_eq_iff_eq

/-- The paths ascend strictly. -/
def Increasing (paths : List String) : Prop :=
  paths.Pairwise fun a b => order a b = .lt

theorem increasing_iff :
    Increasing paths ↔ (paths.map parts).Pairwise fun ps qs => orderParts ps qs = .lt := by
  rw [List.pairwise_map]
  rfl

theorem Increasing.nodup_map_parts (h : Increasing paths) : (paths.map parts).Nodup := by
  refine (increasing_iff.1 h).imp ?_
  rintro ps _ hlt rfl
  have heq : orderParts ps ps = .eq := Std.ReflCmp.compare_self
  rw [heq] at hlt
  cases hlt

theorem sort_eq (paths : List String) :
    sort paths = paths.mergeSort fun a b => (order a b).isLE := by
  have hisLE : (fun a b => order a b != .gt) = fun a b => (order a b).isLE := by
    funext a b
    cases order a b <;> rfl
  rw [sort, hisLE]

theorem pairwise_sort (paths : List String) :
    (sort paths).Pairwise fun a b => (order a b).isLE = true := by
  rw [sort_eq]
  refine List.pairwise_mergeSort (fun a b c => Std.TransCmp.isLE_trans) (fun a b => ?_) paths
  have hswap : order b a = (order a b).swap := Std.OrientedCmp.eq_swap
  rw [hswap]
  cases order a b <;> rfl

theorem sort_eq_self (h : paths.Pairwise fun a b => (order a b).isLE = true) :
    sort paths = paths := by
  rw [sort_eq]
  exact List.mergeSort_of_pairwise h

theorem dropRepeatsAfter_sublist (last : String) (paths : List String) :
    (dropRepeatsAfter last paths).Sublist paths := by
  induction paths generalizing last with
  | nil => exact .slnil
  | cons path rest ih =>
    rw [dropRepeatsAfter]
    split
    · exact (ih last).cons path
    · exact (ih path).cons_cons path

/-- What is left of an ascending list is strictly increasing. -/
theorem increasing_dropRepeatsAfter {last : String}
    (h : (last :: paths).Pairwise fun a b => (order a b).isLE = true) :
    Increasing (last :: dropRepeatsAfter last paths) := by
  induction paths generalizing last with
  | nil => exact List.pairwise_singleton _ _
  | cons path rest ih =>
    rw [dropRepeatsAfter]
    split
    next => exact ih (h.sublist ((List.sublist_cons_self path rest).cons_cons last))
    next hdistinct =>
      obtain ⟨hlast, hrest⟩ := List.pairwise_cons.1 h
      have hlt : order last path = .lt := by
        have hle := hlast path List.mem_cons_self
        cases horder : order last path with
        | lt => rfl
        | eq => exact absurd (by rw [same, horder]; rfl) hdistinct
        | gt => rw [horder] at hle; cases hle
      have hkept := ih hrest
      refine List.pairwise_cons.2 ⟨List.forall_mem_cons.2 ⟨hlt, fun other hother => ?_⟩, hkept⟩
      exact Std.TransCmp.lt_trans hlt ((List.pairwise_cons.1 hkept).1 other hother)

/-- A dropped path has the parts of one that is left. -/
theorem mem_map_parts_dropRepeatsAfter {path : List Part} {last : String} :
    path ∈ (last :: dropRepeatsAfter last paths).map parts ↔ path ∈ (last :: paths).map parts := by
  induction paths generalizing last with
  | nil => rfl
  | cons first rest ih =>
    rw [dropRepeatsAfter]
    split
    next hsame => rw [ih]; simp [← same_iff.1 hsame]
    next => rw [List.map_cons, List.mem_cons, ih, ← List.mem_cons, ← List.map_cons]

theorem dropRepeats_sublist (paths : List String) : (dropRepeats paths).Sublist paths := by
  cases paths with
  | nil => exact .slnil
  | cons path rest => exact (dropRepeatsAfter_sublist path rest).cons_cons path

theorem mem_of_mem_dropRepeats_sort {path : String} (h : path ∈ dropRepeats (sort paths)) :
    path ∈ paths :=
  List.mem_mergeSort.1 ((dropRepeats_sublist _).mem h)

/-- Sorting brings the same paths together, so none is left twice. -/
theorem increasing_dropRepeats_sort (paths : List String) :
    Increasing (dropRepeats (sort paths)) := by
  have hsort := pairwise_sort paths
  cases hpaths : sort paths with
  | nil => exact .nil
  | cons path rest => exact increasing_dropRepeatsAfter (hpaths ▸ hsort)

theorem mem_map_parts_dropRepeats_sort {path : List Part} :
    path ∈ (dropRepeats (sort paths)).map parts ↔ path ∈ paths.map parts := by
  have hmem : path ∈ (sort paths).map parts ↔ path ∈ paths.map parts := by
    simp [sort, List.mem_mergeSort]
  rw [← hmem]
  cases sort paths with
  | nil => rfl
  | cons first rest => exact mem_map_parts_dropRepeatsAfter

/-- Two strictly increasing lists with the same parts are the same path by path. -/
theorem Increasing.forall₂_same (hpaths : Increasing paths) (hothers : Increasing others)
    (hmem : ∀ path, path ∈ paths.map parts ↔ path ∈ others.map parts) :
    List.Forall₂ (fun a b => same a b = true) paths others := by
  have hperm : (paths.map parts).Perm (others.map parts) :=
    (List.perm_ext_iff_of_nodup hpaths.nodup_map_parts hothers.nodup_map_parts).2 hmem
  have hparts : paths.map parts = others.map parts := by
    refine hperm.eq_of_pairwise (fun ps qs _ _ hlt hgt => ?_) (increasing_iff.1 hpaths)
      (increasing_iff.1 hothers)
    have hswap : orderParts qs ps = .gt := Std.OrientedCmp.gt_of_lt hlt
    rw [hswap] at hgt
    cases hgt
  have hsame : List.Forall₂ (fun a b => parts a = parts b) paths others := by
    rwa [← List.forall₂_eq_eq_eq, List.forall₂_map_left_iff, List.forall₂_map_right_iff] at hparts
  exact hsame.imp fun _ _ => same_iff.2

end ComponentDocs.Path
