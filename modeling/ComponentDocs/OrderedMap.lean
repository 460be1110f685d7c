/-!
# Maps in insertion order

A map from texts to values that remembers the order in which its keys were first inserted.
Inserting an existing key replaces the value and keeps the position.  No key occurs twice, which
is part of the type.
-/

namespace ComponentDocs

structure OrderedMap (α : Type) where
  entries : List (String × α)
  nodup : (entries.map Prod.fst).Nodup
  deriving DecidableEq

namespace OrderedMap

variable {α : Type}

/-- The entries with the value at `key` set, in place or else at the end. -/
def setEntry (key : String) (value : α) : List (String × α) → List (String × α)
  | [] => [(key, value)]
  | entry :: rest =>
    if entry.1 = key then (key, value) :: rest else entry :: setEntry key value rest

theorem keys_setEntry (key : String) (value : α) (entries : List (String × α)) :
    (setEntry key value entries).map Prod.fst =
      if key ∈ entries.map Prod.fst then entries.map Prod.fst
      else entries.map Prod.fst ++ [key] := by
  induction entries with
  | nil => simp [setEntry]
  | cons entry rest ih =>
    by_cases h : entry.1 = key
    · simp [setEntry, h]
    · have hne : ¬ key = entry.1 := fun e => h e.symm
      simp only [setEntry, if_neg h, List.map_cons, ih, List.mem_cons, hne, false_or]
      split <;> rfl

theorem nodup_keys_setEntry (key : String) (value : α) {entries : List (String × α)}
    (hnodup : (entries.map Prod.fst).Nodup) :
    ((setEntry key value entries).map Prod.fst).Nodup := by
  rw [keys_setEntry]
  split
  · exact hnodup
  · rename_i hnew
    refine List.nodup_append.2 ⟨hnodup, by simp, ?_⟩
    intro a ha b hb hab
    rw [List.mem_singleton] at hb
    exact hnew (hb ▸ hab ▸ ha)

theorem lookup_setEntry (key other : String) (value : α) (entries : List (String × α)) :
    (setEntry key value entries).lookup other =
      if other = key then some value else entries.lookup other := by
  induction entries with
  | nil =>
    by_cases h : other = key <;> simp [setEntry, h]
  | cons entry rest ih =>
    obtain ⟨name, old⟩ := entry
    by_cases hname : name = key
    · by_cases h : other = key
      · simp [setEntry, hname, h]
      · simp [setEntry, hname, h, List.lookup_cons, beq_false_of_ne h]
    · by_cases h : other = name
      · simp [setEntry, hname, h]
      · simp [setEntry, hname, List.lookup_cons, beq_false_of_ne h, ih]

/-- A new key comes last. -/
theorem setEntry_of_notMem {key : String} {entries : List (String × α)}
    (hnew : key ∉ entries.map Prod.fst) (value : α) :
    setEntry key value entries = entries ++ [(key, value)] := by
  induction entries with
  | nil => rfl
  | cons entry rest ih =>
    rw [List.map_cons, List.mem_cons, not_or] at hnew
    rw [setEntry, if_neg (Ne.symm hnew.1), ih hnew.2, List.cons_append]

def empty : OrderedMap α :=
  ⟨[], by simp⟩

instance : Inhabited (OrderedMap α) :=
  ⟨empty⟩

def insert (m : OrderedMap α) (key : String) (value : α) : OrderedMap α :=
  ⟨setEntry key value m.entries, nodup_keys_setEntry key value m.nodup⟩

def get? (m : OrderedMap α) (key : String) : Option α :=
  m.entries.lookup key

def contains (m : OrderedMap α) (key : String) : Bool :=
  (m.get? key).isSome

/-- Inserts at a key that is not there yet; a value that is there stays. -/
def insertNew (m : OrderedMap α) (key : String) (value : α) : OrderedMap α :=
  if m.contains key then m else m.insert key value

def keys (m : OrderedMap α) : List String :=
  m.entries.map Prod.fst

def values (m : OrderedMap α) : List α :=
  m.entries.map Prod.snd

@[simp] theorem get?_empty (key : String) : (empty : OrderedMap α).get? key = none :=
  rfl

theorem get?_insert (m : OrderedMap α) (key other : String) (value : α) :
    (m.insert key value).get? other = if other = key then some value else m.get? other :=
  lookup_setEntry key other value m.entries

theorem keys_insert (m : OrderedMap α) (key : String) (value : α) :
    (m.insert key value).keys = if key ∈ m.keys then m.keys else m.keys ++ [key] :=
  keys_setEntry key value m.entries

theorem mem_keys_of_get? {m : OrderedMap α} {key : String} {value : α}
    (h : m.get? key = some value) : key ∈ m.keys := by
  obtain ⟨before, after, hentries, _⟩ := List.lookup_eq_some_iff.1 h
  simp [keys, hentries]

theorem mem_entries_of_get? {m : OrderedMap α} {key : String} {value : α}
    (h : m.get? key = some value) : (key, value) ∈ m.entries := by
  obtain ⟨before, after, hentries, _⟩ := List.lookup_eq_some_iff.1 h
  rw [hentries]
  exact List.mem_append_right _ List.mem_cons_self

theorem get?_eq_none_iff {m : OrderedMap α} {key : String} :
    m.get? key = none ↔ key ∉ m.keys := by
  rw [get?, List.lookup_eq_none_iff, keys, List.mem_map]
  constructor
  · rintro hnone ⟨entry, hentry, rfl⟩
    simpa using hnone entry hentry
  · intro hnew entry hentry
    rw [bne_iff_ne]
    rintro rfl
    exact hnew ⟨entry, hentry, rfl⟩

theorem get?_of_mem {m : OrderedMap α} {key : String} {value : α}
    (hentry : (key, value) ∈ m.entries) : m.get? key = some value := by
  obtain ⟨before, after, hsplit⟩ := List.append_of_mem hentry
  refine List.lookup_eq_some_iff.2 ⟨before, after, hsplit, ?_⟩
  intro entry hbefore
  have hnodup := m.nodup
  rw [hsplit, List.map_append, List.nodup_append] at hnodup
  have hne := hnodup.2.2 entry.1 (List.mem_map_of_mem hbefore) key (by simp)
  simpa using hne.symm

theorem entries_insert_of_notMem {m : OrderedMap α} {key : String} (hnew : key ∉ m.keys)
    (value : α) : (m.insert key value).entries = m.entries ++ [(key, value)] :=
  setEntry_of_notMem hnew value

/-- The value that is there stays. -/
theorem get?_insertNew (m : OrderedMap α) (key other : String) (value : α) :
    (m.insertNew key value).get? other =
      (m.get? other).or (if other = key then some value else none) := by
  unfold insertNew contains
  by_cases hsame : other = key
  · subst hsame
    cases hthere : m.get? other with
    | none => simp [get?_insert]
    | some old => simp [hthere]
  · rw [if_neg hsame, Option.or_none]
    split
    · rfl
    · rw [get?_insert, if_neg hsame]

def size (m : OrderedMap α) : Nat :=
  m.entries.length

def isEmpty (m : OrderedMap α) : Bool :=
  m.entries.isEmpty

end OrderedMap

end ComponentDocs
