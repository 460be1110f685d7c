import ComponentDocs.Inheritance

/-!
# Ancestors of a class

The classes that are met on the way from a class to its base, to the base of that one, and so on.
The way goes on as long as the class it stands at is registered and names a base.  It either ends,
and then its registered classes form the lineage of the class, or it comes back to a class it has
passed before.

Nothing here mentions a resolver.  `Ancestry` speaks of the registry alone, so that requests can be
compared with it.
-/

namespace ComponentDocs.Registry

/-- The base that a registered class names. -/
def base? (registry : Registry) (name : String) : Option String :=
  (registry.get? name).bind ClassInfo.base

/-- The class that stands `steps` bases above `name`.  It need not be registered itself. -/
def ancestor? (registry : Registry) (name : String) : Nat → Option String
  | 0 => some name
  | steps + 1 => (registry.ancestor? name steps).bind registry.base?

/-- The registered class met after `i` steps is met again after `j` steps. -/
def Revisits (registry : Registry) (name : String) (i j : Nat) : Prop :=
  i < j ∧ ∃ visited, registry.ancestor? name i = some visited ∧
    registry.ancestor? name j = some visited ∧ (registry.get? visited).isSome

/-- The first time that a registered class is met again is after `j` steps, and that class was met
before after `i` steps. -/
def FirstRevisit (registry : Registry) (name : String) (i j : Nat) : Prop :=
  registry.Revisits name i j ∧ ∀ i' j', registry.Revisits name i' j' → j ≤ j'

/-- `chain` lists the registered classes on the way, and the way ends after them. -/
def IsLineage (registry : Registry) (name : String) (chain : List ClassInfo) : Prop :=
  ∀ k, chain[k]? = (registry.ancestor? name k).bind registry.get?

/-! ## Steps -/

theorem base?_eq_some {registry : Registry} {name parent : String} {info : ClassInfo}
    (hinfo : registry.get? name = some info) (hbase : info.base = some parent) :
    registry.base? name = some parent := by
  simp [base?, hinfo, hbase]

/-- Only a registered class names a base. -/
theorem isSome_get?_of_base? {registry : Registry} {name parent : String}
    (hbase : registry.base? name = some parent) : (registry.get? name).isSome := by
  cases hinfo : registry.get? name with
  | none => simp [base?, hinfo] at hbase
  | some info => rfl

/-- Steps can be taken in two parts. -/
theorem ancestor?_add (registry : Registry) (name : String) (i d : Nat) :
    registry.ancestor? name (i + d) =
      (registry.ancestor? name i).bind fun middle => registry.ancestor? middle d := by
  induction d with
  | zero => cases registry.ancestor? name i <;> rfl
  | succ d ih =>
    rw [← Nat.add_assoc, ancestor?, ih]
    cases registry.ancestor? name i <;> rfl

/-- The first step may be taken on its own. -/
theorem ancestor?_succ (registry : Registry) (name : String) (k : Nat) :
    registry.ancestor? name (k + 1) =
      (registry.base? name).bind fun parent => registry.ancestor? parent k := by
  rw [Nat.add_comm, ancestor?_add]
  rfl

/-- Every class on the way but the last is registered. -/
theorem isSome_get?_of_ancestor?_succ {registry : Registry} {name met next : String} {k : Nat}
    (hmet : registry.ancestor? name k = some met)
    (hnext : registry.ancestor? name (k + 1) = some next) : (registry.get? met).isSome := by
  rw [ancestor?, hmet] at hnext
  exact isSome_get?_of_base? hnext

/-! ## Lineages -/

theorem isLineage_nil {registry : Registry} {name : String} (hinfo : registry.get? name = none) :
    registry.IsLineage name [] := by
  intro k
  cases k with
  | zero => simp [ancestor?, hinfo]
  | succ k => simp [ancestor?_succ, base?, hinfo]

theorem isLineage_singleton {registry : Registry} {name : String} {info : ClassInfo}
    (hinfo : registry.get? name = some info) (hbase : info.base = none) :
    registry.IsLineage name [info] := by
  intro k
  cases k with
  | zero => simp [ancestor?, hinfo]
  | succ k => simp [ancestor?_succ, base?, hinfo, hbase]

theorem IsLineage.cons {registry : Registry} {name parent : String} {info : ClassInfo}
    {chain : List ClassInfo} (hinfo : registry.get? name = some info)
    (hbase : info.base = some parent) (hchain : registry.IsLineage parent chain) :
    registry.IsLineage name (info :: chain) := by
  intro k
  cases k with
  | zero => simp [ancestor?, hinfo]
  | succ k => simp [ancestor?_succ, base?_eq_some hinfo hbase, hchain k]

theorem IsLineage.unique {registry : Registry} {name : String} {chain other : List ClassInfo}
    (hchain : registry.IsLineage name chain) (hother : registry.IsLineage name other) :
    chain = other :=
  List.ext_getElem? fun k => (hchain k).trans (hother k).symm

/-! ## Revisits -/

/-- A class that is met again is met again and again. -/
theorem Revisits.ancestor?_mul {registry : Registry} {name : String} {i j : Nat}
    (h : registry.Revisits name i j) (rounds : Nat) :
    registry.ancestor? name (i + rounds * (j - i)) = registry.ancestor? name i := by
  obtain ⟨hlt, visited, hi, hj, -⟩ := h
  have hround : registry.ancestor? visited (j - i) = some visited := by
    have hsum := ancestor?_add registry name i (j - i)
    rw [show i + (j - i) = j by omega, hi, hj] at hsum
    exact hsum.symm
  induction rounds with
  | zero => rw [Nat.zero_mul, Nat.add_zero]
  | succ rounds ih =>
    rw [Nat.succ_mul, ← Nat.add_assoc, ancestor?_add, ih, hi]
    exact hround

/-- A way that ends meets no class twice. -/
theorem IsLineage.not_revisits {registry : Registry} {name : String} {chain : List ClassInfo}
    (hchain : registry.IsLineage name chain) (i j : Nat) : ¬ registry.Revisits name i j := by
  intro h
  -- After as many rounds as the lineage has classes, the way is past its end.
  have hround := h.ancestor?_mul chain.length
  obtain ⟨hlt, visited, hi, -, hregistered⟩ := h
  have hpast : chain.length ≤ i + chain.length * (j - i) := by
    have hmul := Nat.le_mul_of_pos_right chain.length (show 0 < j - i by omega)
    omega
  have hend := hchain (i + chain.length * (j - i))
  rw [List.getElem?_eq_none hpast, hround, hi] at hend
  rw [Option.isSome_iff_exists] at hregistered
  obtain ⟨info, hinfo⟩ := hregistered
  simp [hinfo] at hend

theorem FirstRevisit.unique {registry : Registry} {name : String} {i j i' j' : Nat}
    (h : registry.FirstRevisit name i j) (h' : registry.FirstRevisit name i' j') :
    i = i' ∧ j = j' := by
  have hj : j = j' := Nat.le_antisymm (h.2 _ _ h'.1) (h'.2 _ _ h.1)
  subst hj
  obtain ⟨⟨hlt, visited, hi, hj, hregistered⟩, hfirst⟩ := h
  obtain ⟨⟨hlt', visited', hi', hj', -⟩, -⟩ := h'
  obtain rfl : visited = visited' := Option.some.inj (hj.symm.trans hj')
  -- Two different earlier places would make the later of them a revisit too.
  refine ⟨?_, rfl⟩
  rcases Nat.lt_trichotomy i i' with hlt'' | heq | hgt
  · have := hfirst i i' ⟨hlt'', visited, hi, hi', hregistered⟩
    omega
  · exact heq
  · have := hfirst i' i ⟨hgt, visited, hi', hi, hregistered⟩
    omega

/-- Up to the first revisit the way goes on. -/
theorem Revisits.exists_ancestor? {registry : Registry} {name : String} {i j : Nat}
    (h : registry.Revisits name i j) {k : Nat} (hk : k ≤ j) :
    ∃ met, registry.ancestor? name k = some met := by
  obtain ⟨-, visited, -, hj, -⟩ := h
  rw [show j = k + (j - k) by omega, ancestor?_add] at hj
  obtain ⟨met, hmet, -⟩ := Option.bind_eq_some_iff.1 hj
  exact ⟨met, hmet⟩

/-- On the way around the cycle no class is met twice. -/
theorem FirstRevisit.ancestor?_ne {registry : Registry} {name : String} {i j a b : Nat}
    (h : registry.FirstRevisit name i j) (hia : i < a) (hab : a < b) (hbj : b ≤ j) :
    registry.ancestor? name a ≠ registry.ancestor? name b := by
  obtain ⟨hrevisit, hfirst⟩ := h
  obtain ⟨met, hmet⟩ := hrevisit.exists_ancestor? (show a ≤ j by omega)
  obtain ⟨next, hnext⟩ := hrevisit.exists_ancestor? (show a + 1 ≤ j by omega)
  have hregistered := isSome_get?_of_ancestor?_succ hmet hnext
  intro heq
  have hjb : j ≤ b := hfirst a b ⟨hab, met, hmet, heq ▸ hmet, hregistered⟩
  obtain rfl : b = j := by omega
  -- Then `a` itself would be the first revisit, of the class met at `i`.
  obtain ⟨-, visited, hi, hj, hvisited⟩ := hrevisit
  have := hfirst i a ⟨hia, visited, hi, heq.trans hj, hvisited⟩
  omega

end ComponentDocs.Registry
