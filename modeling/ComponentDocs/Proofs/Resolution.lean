import ComponentDocs.Proofs.Ancestry
import Mathlib.Data.List.Chain
import Mathlib.Data.List.Nodup

/-!
# What a request for a full API answers

A request is compared with the ancestry of the class in the registry.  Either the way to the bases
ends, and the answer is the lineage flattened, or it runs into a cycle, and the answer is that
cycle.  Which of the two, and with which value, depends on the registry alone: neither the cache
nor the requests before can be seen in an answer.

* `CacheValid` is the invariant of the cache: every entry is the flattened lineage of its class.
* `Reached` ties the classes being visited to the way from the class that was asked for.
* `resolve_answers` is the step: what one request answers and what it leaves behind, by recursion
  over the classes not being visited.
* `idle_resolverAfter` carries the invariant over any sequence of requests.
-/

namespace ComponentDocs

namespace Api

@[simp] theorem inherit_empty (policy : OverridePolicy) (own : Api) :
    own.inherit policy .empty = own := by
  cases policy <;> simp [inherit, empty, appendNew]

/-- The own members of the classes of a lineage, each class followed by what it inherits. -/
def flatten (policy : OverridePolicy) (chain : List ClassInfo) : Api :=
  chain.foldr (fun info inherited => info.own.inherit policy inherited) .empty

theorem flatten_concatenate (chain : List ClassInfo) :
    flatten .concatenate chain =
      ⟨chain.flatMap fun info => info.own.properties,
        chain.flatMap fun info => info.own.methods⟩ := by
  induction chain with
  | nil => rfl
  | cons info chain ih =>
    rw [flatten, List.foldr_cons, ← flatten, ih]
    rfl

end Api

namespace Registry

variable {registry : Registry} {policy : OverridePolicy}

/-- Every entry is the flattened lineage of its class. -/
def CacheValid (registry : Registry) (policy : OverridePolicy) (cache : OrderedMap Api) : Prop :=
  ∀ name api, cache.get? name = some api →
    ∃ chain, registry.IsLineage name chain ∧ api = .flatten policy chain

theorem cacheValid_empty : registry.CacheValid policy .empty := by
  intro name api hcached
  simp at hcached

theorem CacheValid.insert {cache : OrderedMap Api} {name : String} {chain : List ClassInfo}
    (hvalid : registry.CacheValid policy cache) (hchain : registry.IsLineage name chain) :
    registry.CacheValid policy (cache.insert name (.flatten policy chain)) := by
  intro other api hcached
  rw [OrderedMap.get?_insert] at hcached
  split at hcached
  · rename_i hsame
    subst hsame
    exact ⟨chain, hchain, (Option.some.inj hcached).symm⟩
  · exact hvalid other api hcached

/-! ## The classes being visited -/

/-- The classes `visiting` are the first ones on the way from `root`, no two of them are the same,
and `name` comes next. -/
structure Reached (registry : Registry) (root : String) (visiting : List String)
    (name : String) : Prop where
  passed : ∀ k, k < visiting.length → registry.ancestor? root k = visiting[k]?
  next : registry.ancestor? root visiting.length = some name
  nodup : visiting.Nodup

theorem reached_start (name : String) : registry.Reached name [] name :=
  ⟨fun k hk => absurd hk (Nat.not_lt_zero k), rfl, List.nodup_nil⟩

/-- Going on from a registered class that is not being visited. -/
theorem Reached.step {root name parent : String} {visiting : List String} {info : ClassInfo}
    (h : registry.Reached root visiting name) (hinfo : registry.get? name = some info)
    (hbase : info.base = some parent) (hnew : name ∉ visiting) :
    registry.Reached root (visiting ++ [name]) parent := by
  refine ⟨?_, ?_, ?_⟩
  · intro k hk
    rw [List.length_append, List.length_singleton] at hk
    rcases Nat.lt_or_eq_of_le (Nat.lt_succ_iff.1 hk) with hlt | rfl
    · rw [List.getElem?_append_left hlt]
      exact h.passed k hlt
    · rw [List.getElem?_concat_length]
      exact h.next
  · rw [List.length_append, List.length_singleton, ancestor?, h.next]
    exact base?_eq_some hinfo hbase
  · rw [List.nodup_append]
    refine ⟨h.nodup, by simp, ?_⟩
    intro other hother last hlast
    rw [List.mem_singleton] at hlast
    rintro rfl
    exact hnew (hlast ▸ hother)

/-- As long as the classes being visited differ, no class has been met twice. -/
theorem Reached.length_le_of_revisits {root name : String} {visiting : List String} {i j : Nat}
    (h : registry.Reached root visiting name) (hrevisit : registry.Revisits root i j) :
    visiting.length ≤ j := by
  obtain ⟨hlt, visited, hi, hj, -⟩ := hrevisit
  apply Nat.le_of_not_lt
  intro hshort
  rw [h.passed i (by omega)] at hi
  rw [h.passed j hshort] at hj
  have heq : i = j := (List.getElem?_inj (by omega) h.nodup).1 (hi.trans hj.symm)
  omega

/-- The classes from the first one named `name` on. -/
theorem dropWhile_ne_eq_drop (visiting : List String) (name : String) :
    visiting.dropWhile (· != name) = visiting.drop (visiting.idxOf name) := by
  induction visiting with
  | nil => rfl
  | cons first rest ih =>
    by_cases h : first = name
    · simp [h]
    · rw [List.idxOf_cons, beq_false_of_ne h]
      simp [h, ih]

/-- The steps `i` to `j` of the way are the classes of the cycle that is reported. -/
theorem Reached.chain_eq {root name : String} {visiting : List String}
    (h : registry.Reached root visiting name) :
    (visiting.dropWhile (· != name) ++ [name]).map some =
      (List.range' (visiting.idxOf name) (visiting.length + 1 - visiting.idxOf name)).map
        (registry.ancestor? root) := by
  have hle : visiting.idxOf name ≤ visiting.length := List.idxOf_le_length
  rw [dropWhile_ne_eq_drop]
  apply List.ext_getElem?
  intro k
  rw [List.getElem?_map, List.getElem?_map, List.getElem?_append, List.length_drop,
    List.getElem?_drop]
  by_cases hin : k < visiting.length - visiting.idxOf name
  · rw [if_pos hin, List.getElem?_range' (by omega), ← h.passed _ (by omega)]
    cases hmet : registry.ancestor? root (visiting.idxOf name + k) with
    | none =>
      rw [h.passed _ (by omega), List.getElem?_eq_none_iff] at hmet
      omega
    | some met => simp [hmet]
  · rw [if_neg hin]
    by_cases hlast : k = visiting.length - visiting.idxOf name
    · subst hlast
      rw [Nat.sub_self, List.getElem?_range' (by omega)]
      simp only [List.getElem?_cons_zero, Option.map_some, Nat.one_mul]
      rw [show visiting.idxOf name + (visiting.length - visiting.idxOf name) = visiting.length by
        omega, h.next]
    · rw [List.getElem?_eq_none (by simp only [List.length_singleton]; omega),
        List.getElem?_eq_none (by simp only [List.length_range']; omega)]
      rfl

/-- A class that is being visited is met again. -/
theorem Reached.firstRevisit {root name : String} {visiting : List String} {info : ClassInfo}
    (h : registry.Reached root visiting name) (hinfo : registry.get? name = some info)
    (hvisited : name ∈ visiting) :
    registry.FirstRevisit root (visiting.idxOf name) visiting.length := by
  have hlt : visiting.idxOf name < visiting.length := List.idxOf_lt_length_of_mem hvisited
  refine ⟨⟨hlt, name, ?_, h.next, by simp [hinfo]⟩, fun i j => h.length_le_of_revisits⟩
  rw [h.passed _ hlt]
  exact List.getElem?_eq_some_iff.2 ⟨hlt, List.getElem_idxOf hlt⟩

/-! ## One request -/

/-- What a request on the way from `root` answers, and the resolver it leaves behind. -/
inductive Answers (registry : Registry) (policy : OverridePolicy) (root : String)
    (before : Resolver) (name : String) : Except Cycle Api × Resolver → Prop where
  /-- The lineage flattened; the results so far stay valid. -/
  | flattened {chain : List ClassInfo} {after : Resolver}
      (hchain : registry.IsLineage name chain)
      (hvalid : registry.CacheValid policy after.cache)
      (hvisiting : after.visiting = before.visiting) :
      Answers registry policy root before name (.ok (.flatten policy chain), after)
  /-- The cycle that the way from `root` runs into; the resolver stays as it was. -/
  | cyclic {cycle : Cycle} {i j : Nat} (hfirst : registry.FirstRevisit root i j)
      (hcycle : cycle.chain.map some =
        (List.range' i (j + 1 - i)).map (registry.ancestor? root)) :
      Answers registry policy root before name (.error cycle, before)

theorem resolve_answers {resolver : Resolver} {root name : String}
    (hvalid : registry.CacheValid policy resolver.cache)
    (hreached : registry.Reached root resolver.visiting name) :
    registry.Answers policy root resolver name (registry.resolve policy resolver name).value := by
  -- By recursion over the classes that are not being visited, as the request itself goes.
  fun_induction resolve registry policy resolver name with
  | case1 resolver name api hcached =>
    obtain ⟨chain, hchain, rfl⟩ := hvalid name api hcached
    exact .flattened hchain hvalid rfl
  | case2 resolver name hcached hinfo => exact .flattened (isLineage_nil hinfo) hvalid rfl
  | case3 resolver name hcached info hinfo hvisited =>
    exact .cyclic (hreached.firstRevisit hinfo hvisited) hreached.chain_eq
  | case4 resolver name hcached info hinfo hnew hbase =>
    have hchain := isLineage_singleton hinfo hbase
    have hown : info.own = .flatten policy [info] := (Api.inherit_empty policy info.own).symm
    rw [hown]
    exact .flattened hchain (hvalid.insert hchain) rfl
  | case5 resolver name hcached info hinfo hnew parent hbase ih =>
    have hparent := ih hvalid (hreached.step hinfo hbase hnew)
    rw [Logged.value_bind, Logged.value_bind]
    generalize (registry.resolve policy (resolver.enter name) parent).value = answer at hparent
    cases hparent with
    | @flattened chain after hchain hvalid hvisiting =>
      have hlineage := hchain.cons hinfo hbase
      refine .flattened hlineage (hvalid.insert hlineage) ?_
      simp [Resolver.remember, Resolver.leave, hvisiting, Resolver.enter]
    | cyclic hfirst hcycle =>
      have hleave : (resolver.enter name).leave = resolver := by
        simp [Resolver.enter, Resolver.leave]
      simp only [hleave]
      exact .cyclic hfirst hcycle

/-! ## Sequences of requests -/

/-- The resolver after a sequence of requests. -/
def resolverAfter (registry : Registry) (policy : OverridePolicy) (names : List String) :
    Resolver :=
  names.foldl (fun resolver name => (registry.resolve policy resolver name).value.2) .empty

/-- Between two requests the results so far are valid and no class is being visited. -/
structure Idle (registry : Registry) (policy : OverridePolicy) (resolver : Resolver) : Prop where
  valid : registry.CacheValid policy resolver.cache
  visiting : resolver.visiting = []

theorem idle_empty : registry.Idle policy .empty :=
  ⟨cacheValid_empty, rfl⟩

theorem Idle.answers {resolver : Resolver} (hidle : registry.Idle policy resolver)
    (name : String) :
    registry.Answers policy name resolver name (registry.resolve policy resolver name).value := by
  apply resolve_answers hidle.valid
  rw [hidle.visiting]
  exact reached_start name

theorem Idle.resolve {resolver : Resolver} (hidle : registry.Idle policy resolver)
    (name : String) : registry.Idle policy (registry.resolve policy resolver name).value.2 := by
  have hanswers := hidle.answers name
  generalize (registry.resolve policy resolver name).value = answer at hanswers
  cases hanswers with
  | flattened hchain hvalid hvisiting => exact ⟨hvalid, hvisiting.trans hidle.visiting⟩
  | cyclic hfirst hcycle => exact hidle

theorem idle_resolverAfter (names : List String) :
    registry.Idle policy (registry.resolverAfter policy names) := by
  suffices hrun : ∀ resolver, registry.Idle policy resolver → registry.Idle policy
      (names.foldl (fun resolver name => (registry.resolve policy resolver name).value.2)
        resolver) from hrun .empty idle_empty
  induction names with
  | nil => exact fun _ hidle => hidle
  | cons name names ih => exact fun _ hidle => ih _ (hidle.resolve name)

/-- Answers depend on the registry alone. -/
theorem Answers.value_unique {name : String} {before before' : Resolver}
    {answer answer' : Except Cycle Api × Resolver}
    (h : registry.Answers policy name before name answer)
    (h' : registry.Answers policy name before' name answer') : answer.1 = answer'.1 := by
  cases h with
  | flattened hchain =>
    cases h' with
    | flattened hchain' => rw [hchain.unique hchain']
    | cyclic hfirst' => exact absurd hfirst'.1 (hchain.not_revisits _ _)
  | @cyclic cycle i j hfirst hcycle =>
    cases h' with
    | flattened hchain' => exact absurd hfirst.1 (hchain'.not_revisits _ _)
    | @cyclic cycle' i' j' hfirst' hcycle' =>
      obtain ⟨rfl, rfl⟩ := hfirst.unique hfirst'
      have hsame : cycle.chain = cycle'.chain :=
        List.map_inj_right (fun _ _ => Option.some.inj) |>.1 (hcycle.trans hcycle'.symm)
      cases cycle
      cases cycle'
      simp only at hsame
      rw [hsame]

theorem Idle.resolve_eq_fresh {resolver : Resolver} (hidle : registry.Idle policy resolver)
    (name : String) :
    (registry.resolve policy resolver name).value.1 =
      (registry.resolve policy .empty name).value.1 :=
  (hidle.answers name).value_unique (idle_empty.answers name)

theorem Idle.resolveAll_eq {resolver : Resolver} (hidle : registry.Idle policy resolver)
    (names : List String) :
    (registry.resolveAll policy resolver names).value =
      names.map fun name => (registry.resolve policy .empty name).value.1 := by
  induction names generalizing resolver with
  | nil => rfl
  | cons name names ih =>
    rw [resolveAll, List.map_cons, ← hidle.resolve_eq_fresh name, ← ih (hidle.resolve name)]
    rfl

/-- Memoization cannot be seen.  Each of a sequence of requests to one resolver answers what a new
resolver answers, and when the way from a class meets no registered class twice, that is the
concatenation of the own members along its lineage. -/
theorem resolveAll_eq_map_fresh (registry : Registry) (policy : OverridePolicy)
    (names : List String) :
    (registry.resolveAll policy .empty names).value =
        names.map (fun name => (registry.resolve policy .empty name).value.1) ∧
      ∀ name, (∀ i j, ¬ registry.Revisits name i j) →
        ∃ chain, registry.IsLineage name chain ∧
          (registry.resolve .concatenate .empty name).value.1 =
            .ok ⟨chain.flatMap fun info => info.own.properties,
              chain.flatMap fun info => info.own.methods⟩ := by
  refine ⟨idle_empty.resolveAll_eq names, ?_⟩
  intro name hends
  have hidle : registry.Idle .concatenate .empty := idle_empty
  have hanswers := hidle.answers name
  generalize (registry.resolve .concatenate .empty name).value = answer at hanswers
  cases hanswers with
  | @flattened chain after hchain hvalid hvisiting =>
    exact ⟨chain, hchain, congrArg Except.ok (Api.flatten_concatenate chain)⟩
  | cyclic hfirst hcycle => exact absurd hfirst.1 (hends _ _)

/-- The registry of classes with these bases, each with one property that has its name. -/
def ofBases (bases : List (String × Option String)) : Registry :=
  ⟨bases.foldl (fun classes (name, base) =>
      classes.insert name
        ⟨name, "", false, base, ⟨[⟨name, "", [], "", none⟩], []⟩, ⟨.empty, ""⟩, none⟩) .empty,
    [], .empty⟩

/-- The last ancestor is not registered. -/
theorem resolveAll_eq_map_fresh_leaf :
    let registry := ofBases [("Leaf", some "Middle"), ("Middle", some "Root")]
    (∀ i j, ¬ registry.Revisits "Leaf" i j) ∧
      (registry.resolveAll .childWins .empty ["Middle", "Leaf", "Root", "Leaf"]).value =
        ["Middle", "Leaf", "Root", "Leaf"].map
          (fun name => (registry.resolve .childWins .empty name).value.1) ∧
      ∃ chain, registry.IsLineage "Leaf" chain ∧
        (registry.resolve .concatenate .empty "Leaf").value.1 =
          .ok ⟨chain.flatMap fun info => info.own.properties,
            chain.flatMap fun info => info.own.methods⟩ := by
  intro registry
  have hleaf : registry.get? "Leaf" = some ⟨"Leaf", "", false, some "Middle",
      ⟨[⟨"Leaf", "", [], "", none⟩], []⟩, ⟨.empty, ""⟩, none⟩ := by decide +kernel
  have hmiddle : registry.get? "Middle" = some ⟨"Middle", "", false, some "Root",
      ⟨[⟨"Middle", "", [], "", none⟩], []⟩, ⟨.empty, ""⟩, none⟩ := by decide +kernel
  have hroot : registry.get? "Root" = none := by decide +kernel
  have hends := (((isLineage_nil hroot).cons hmiddle rfl).cons hleaf rfl).not_revisits
  have hmain := resolveAll_eq_map_fresh registry .childWins ["Middle", "Leaf", "Root", "Leaf"]
  exact ⟨hends, hmain.1, hmain.2 "Leaf" hends⟩

/-! ## Reported cycles -/

section ReportedCycle

variable {name : String} {chain : List String} {i j : Nat}

/-- The classes of a reported chain by their steps on the way. -/
theorem getElem?_reported
    (hchain : chain.map some = (List.range' i (j + 1 - i)).map (registry.ancestor? name))
    {k : Nat} (hk : i + k ≤ j) : chain[k]? = registry.ancestor? name (i + k) := by
  have hat := congrArg (fun classes => classes[k]?) hchain
  simp only [List.getElem?_map, List.getElem?_range' (show k < j + 1 - i by omega), Nat.one_mul,
    Option.map_some] at hat
  cases hclass : chain[k]? with
  | none => simp [hclass] at hat
  | some class_ => simpa [hclass] using hat

theorem length_reported
    (hchain : chain.map some = (List.range' i (j + 1 - i)).map (registry.ancestor? name)) :
    chain.length = j + 1 - i := by
  simpa using congrArg List.length hchain

/-- A reported chain ends with the class it begins with. -/
theorem head?_reported (hfirst : registry.FirstRevisit name i j)
    (hchain : chain.map some = (List.range' i (j + 1 - i)).map (registry.ancestor? name)) :
    chain.head? = chain.getLast? := by
  obtain ⟨⟨hlt, visited, hi, hj, -⟩, -⟩ := hfirst
  rw [List.head?_eq_getElem?, List.getLast?_eq_getElem?, length_reported hchain,
    getElem?_reported hchain (by omega), getElem?_reported hchain (by omega),
    show i + (j + 1 - i - 1) = j by omega, Nat.add_zero, hi, hj]

/-- Apart from its first class, a reported chain has no class twice. -/
theorem nodup_tail_reported (hfirst : registry.FirstRevisit name i j)
    (hchain : chain.map some = (List.range' i (j + 1 - i)).map (registry.ancestor? name)) :
    chain.tail.Nodup := by
  rw [List.nodup_iff_getElem?_ne_getElem?]
  intro a b hab hb
  rw [List.length_tail, length_reported hchain] at hb
  rw [List.getElem?_tail, List.getElem?_tail, getElem?_reported hchain (by omega),
    getElem?_reported hchain (by omega)]
  exact hfirst.ancestor?_ne (by omega) (by omega) (by omega)

/-- Each class of a reported chain extends the next. -/
theorem isChain_reported
    (hchain : chain.map some = (List.range' i (j + 1 - i)).map (registry.ancestor? name)) :
    chain.IsChain fun derived base => registry.base? derived = some base := by
  rw [List.isChain_iff_getElem]
  intro k hk
  have hlength := length_reported hchain
  have hderived := getElem?_reported hchain (show i + k ≤ j by omega)
  have hbase := getElem?_reported hchain (show i + (k + 1) ≤ j by omega)
  rw [List.getElem?_eq_getElem hk, ← Nat.add_assoc, ancestor?, ← hderived,
    List.getElem?_eq_getElem (Nat.lt_of_succ_lt hk)] at hbase
  exact hbase.symm

end ReportedCycle

/-- Cycles are reported exactly.  After any sequence of requests, a request fails if and only if the
way from the class meets a registered class twice.  It then reports the classes from the first
meeting of that class to the second, a chain in which each class extends the next and which comes
back to its first class only at its end, and leaves the resolver as it was. -/
theorem resolve_error_iff_revisits (registry : Registry) (policy : OverridePolicy)
    (earlier : List String) (name : String) :
    ((∃ cycle, (registry.resolve policy (registry.resolverAfter policy earlier) name).value.1 =
        .error cycle) ↔ ∃ i j, registry.Revisits name i j) ∧
      ∀ cycle, (registry.resolve policy (registry.resolverAfter policy earlier) name).value.1 =
          .error cycle →
        (∃ i j, registry.FirstRevisit name i j ∧
          cycle.chain.map some =
            (List.range' i (j + 1 - i)).map (registry.ancestor? name)) ∧
        cycle.chain.head? = cycle.chain.getLast? ∧ cycle.chain.tail.Nodup ∧
        cycle.chain.IsChain (fun derived base => registry.base? derived = some base) ∧
        (registry.resolve policy (registry.resolverAfter policy earlier) name).value.2 =
          registry.resolverAfter policy earlier := by
  have hidle : registry.Idle policy (registry.resolverAfter policy earlier) :=
    idle_resolverAfter earlier
  have hanswers := hidle.answers name
  generalize (registry.resolve policy (registry.resolverAfter policy earlier) name).value =
    answer at hanswers
  cases hanswers with
  | flattened hchain =>
    refine ⟨⟨?_, ?_⟩, ?_⟩
    · rintro ⟨cycle, hcycle⟩
      cases hcycle
    · rintro ⟨i, j, hrevisit⟩
      exact absurd hrevisit (hchain.not_revisits i j)
    · intro cycle hcycle
      cases hcycle
  | @cyclic cycle i j hfirst hcycle =>
    refine ⟨⟨fun _ => ⟨i, j, hfirst.1⟩, fun _ => ⟨cycle, rfl⟩⟩, ?_⟩
    rintro _ ⟨⟩
    exact ⟨⟨i, j, hfirst, hcycle⟩, head?_reported hfirst hcycle,
      nodup_tail_reported hfirst hcycle, isChain_reported hcycle, rfl⟩

/-- A way that leads into a cycle: the chain that is reported leaves out what comes before it. -/
theorem resolve_error_iff_revisits_tail :
    let registry := ofBases
      [("Tail", some "Left"), ("Left", some "Right"), ("Right", some "Left"), ("Other", none)]
    let resolver := registry.resolverAfter .concatenate ["Other", "Right"]
    (registry.resolve .concatenate resolver "Tail").value.1 = .error ⟨["Left", "Right", "Left"]⟩ ∧
      (∃ i j, registry.Revisits "Tail" i j) ∧
      (registry.resolve .concatenate resolver "Tail").value.2 = resolver := by
  intro registry resolver
  have herror : (registry.resolve .concatenate resolver "Tail").value.1 =
      .error ⟨["Left", "Right", "Left"]⟩ := by decide +kernel
  have hmain := resolve_error_iff_revisits registry .concatenate ["Other", "Right"] "Tail"
  obtain ⟨-, -, -, -, hafter⟩ := hmain.2 _ herror
  exact ⟨herror, hmain.1.1 ⟨_, herror⟩, hafter⟩

end Registry

end ComponentDocs
