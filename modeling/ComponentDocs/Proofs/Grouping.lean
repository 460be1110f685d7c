import ComponentDocs.Navigation
import ComponentDocs.Proofs.FirstDeclaration
import ComponentDocs.Proofs.Text.Trim

/-!
# Components in groups

The navigation grows link by link, each of which goes into a group that is there already or begins a
new one: `addLink_known` and `addLink_new` are these two cases.  `Grouped` says what the groups hold
after some components without mentioning how they came about.  There is one group for each name, in
the order in which the names come up, and in each group are the links of its own components.

`Grouped.concat` is the step for one more component, `grouped_groups` the whole run, and
`groups_partition` the result, which also says what the prefix of all paths contributes.
-/

namespace ComponentDocs.Navigation

open Text

/-! ## One link -/

section

variable {name : String} {link : Link}

theorem addLink_new {groups : List Group} (hnew : name ∉ groups.map Group.name) :
    addLink name link groups = groups ++ [⟨name, [link]⟩] := by
  induction groups with
  | nil => rfl
  | cons group groups ih =>
    rw [List.map_cons, List.mem_cons, not_or] at hnew
    rw [addLink, if_neg (Ne.symm hnew.1), ih hnew.2, List.cons_append]

theorem addLink_known {before after : List Group} {group : Group}
    (hbefore : group.name ∉ before.map Group.name) :
    addLink group.name link (before ++ group :: after) =
      before ++ ⟨group.name, group.links ++ [link]⟩ :: after := by
  induction before with
  | nil => rw [List.nil_append, addLink, if_pos rfl, List.nil_append]
  | cons other before ih =>
    rw [List.map_cons, List.mem_cons, not_or] at hbefore
    rw [List.cons_append, addLink, if_neg (Ne.symm hbefore.1), ih hbefore.2, List.cons_append]

end

/-! ## The groups so far -/

/-- The links to the components of one group, when all paths lie below `above`. -/
def linksOf (above : String) (docs : List ComponentDoc) (name : String) : List Link :=
  (docs.filter fun doc => doc.groupName = name).map fun doc =>
    ⟨doc.componentName, path above doc.className⟩

/-- `found` are the groups of these components. -/
structure Grouped (above : String) (docs : List ComponentDoc) (found : List Group) : Prop where
  names : found.map Group.name = (docs.map ComponentDoc.groupName).eraseDups
  links : ∀ group ∈ found, group.links = linksOf above docs group.name
  /-- No link is lost and none comes twice. -/
  size : (found.flatMap Group.links).length = docs.length

variable {above : String} {docs : List ComponentDoc}

theorem linksOf_concat_of_eq (doc : ComponentDoc) :
    linksOf above (docs ++ [doc]) doc.groupName =
      linksOf above docs doc.groupName ++ [⟨doc.componentName, path above doc.className⟩] := by
  simp [linksOf]

theorem linksOf_concat_of_ne {doc : ComponentDoc} {name : String} (h : name ≠ doc.groupName) :
    linksOf above (docs ++ [doc]) name = linksOf above docs name := by
  simp [linksOf, h.symm]

theorem linksOf_eq_nil_iff {name : String} :
    linksOf above docs name = [] ↔ name ∉ docs.map ComponentDoc.groupName := by
  simp [linksOf]

namespace Grouped

variable {found : List Group}

theorem mem_names (h : Grouped above docs found) {name : String} :
    name ∈ found.map Group.name ↔ name ∈ docs.map ComponentDoc.groupName := by
  rw [h.names, List.mem_eraseDups]

/-- The name of a group is not the name of another. -/
theorem name_notMem {before after : List Group} {group : Group}
    (h : Grouped above docs (before ++ group :: after)) :
    group.name ∉ (before ++ after).map Group.name := by
  have hnodup := h.names ▸ nodup_eraseDups (docs.map ComponentDoc.groupName)
  rw [List.map_append, List.map_cons, List.nodup_middle, List.nodup_cons] at hnodup
  rw [List.map_append]
  exact hnodup.1

/-- The first component of a group begins it. -/
theorem concat_new (h : Grouped above docs found) {doc : ComponentDoc}
    (hnew : doc.groupName ∉ found.map Group.name) :
    Grouped above (docs ++ [doc])
      (found ++ [⟨doc.groupName, [⟨doc.componentName, path above doc.className⟩]⟩]) := by
  have hdocs : doc.groupName ∉ docs.map ComponentDoc.groupName := fun hmem =>
    hnew (h.mem_names.2 hmem)
  refine ⟨?_, ?_, ?_⟩
  · rw [List.map_append, List.map_append, h.names]
    exact ((eraseDups_concat _ _).trans (if_neg hdocs)).symm
  · rw [List.forall_mem_append, List.forall_mem_singleton]
    constructor
    · intro group hgroup
      have hne : group.name ≠ doc.groupName := fun heq =>
        hnew (heq ▸ List.mem_map_of_mem hgroup)
      rw [linksOf_concat_of_ne hne, h.links group hgroup]
    · rw [linksOf_concat_of_eq, linksOf_eq_nil_iff.2 hdocs, List.nil_append]
  · rw [List.flatMap_append, List.length_append, h.size, List.length_append]
    rfl

/-- Any other component of a group comes last in it. -/
theorem concat_known {before after : List Group} {group : Group} {doc : ComponentDoc}
    (h : Grouped above docs (before ++ group :: after)) (hname : group.name = doc.groupName) :
    Grouped above (docs ++ [doc]) (before ++
      ⟨group.name, group.links ++ [⟨doc.componentName, path above doc.className⟩]⟩ :: after) := by
  have hdocs : doc.groupName ∈ docs.map ComponentDoc.groupName := by
    rw [← hname, ← h.mem_names]
    exact List.mem_map_of_mem (by simp)
  have hothers : ∀ other ∈ before ++ after,
      other.links = linksOf above (docs ++ [doc]) other.name := by
    intro other hother
    have hne : other.name ≠ doc.groupName := by
      rw [← hname]
      exact fun heq => h.name_notMem (heq ▸ List.mem_map_of_mem hother)
    rw [linksOf_concat_of_ne hne]
    refine h.links other ?_
    rw [List.mem_append] at hother
    exact List.mem_append.2 (hother.imp_right (List.mem_cons_of_mem _))
  rw [List.forall_mem_append] at hothers
  refine ⟨?_, ?_, ?_⟩
  · have hnames := h.names
    rw [List.map_append, List.map_cons] at hnames ⊢
    rw [hnames, List.map_append]
    exact ((eraseDups_concat _ _).trans (if_pos hdocs)).symm
  · rw [List.forall_mem_append, List.forall_mem_cons]
    refine ⟨hothers.1, ?_, hothers.2⟩
    have hlinks := h.links group (by simp)
    rw [hname] at hlinks
    simp only [hname, linksOf_concat_of_eq, hlinks]
  · have hsize := h.size
    simp only [List.flatMap_append, List.flatMap_cons, List.length_append,
      List.length_singleton] at hsize ⊢
    omega

theorem concat (h : Grouped above docs found) (doc : ComponentDoc) :
    Grouped above (docs ++ [doc])
      (addLink doc.groupName ⟨doc.componentName, path above doc.className⟩ found) := by
  by_cases hmem : doc.groupName ∈ found.map Group.name
  · obtain ⟨group, hgroup, hname⟩ := List.mem_map.1 hmem
    obtain ⟨before, after, rfl⟩ := List.append_of_mem hgroup
    have hbefore : group.name ∉ before.map Group.name := fun hearlier =>
      h.name_notMem (by rw [List.map_append]; exact List.mem_append_left _ hearlier)
    rw [← hname, addLink_known hbefore]
    exact h.concat_known hname
  · rw [addLink_new hmem]
    exact h.concat_new hmem

end Grouped

theorem grouped_groups (docs : List ComponentDoc) (urlPrefix : String) :
    Grouped (trimSlashes urlPrefix) docs (groups docs urlPrefix) := by
  induction docs using List.reverseRecOn with
  | nil => exact ⟨rfl, List.forall_mem_nil _, rfl⟩
  | append_singleton docs doc ih =>
    rw [groups, List.foldl_append]
    exact ih.concat doc

/-! ## The prefix of all paths -/

/-- A text of slashes. -/
def slashes (count : Nat) : String :=
  String.ofList (List.replicate count '/')

/-- `bare` is the text without the slashes at its two ends. -/
structure IsBare (text bare : String) : Prop where
  between : ∃ first last, text = slashes first ++ bare ++ slashes last
  first : bare.toList.head? ≠ some '/'
  last : bare.toList.getLast? ≠ some '/'

theorem toList_slashes (count : Nat) : (slashes count).toList = List.replicate count '/' :=
  String.toList_ofList

theorem trimSlashes_slashes (first last : Nat) (text : String) :
    trimSlashes (slashes first ++ text ++ slashes last) = trimSlashes text := by
  have hslash : ∀ count, ∀ c ∈ List.replicate count '/', (c == '/') = true := by simp
  rw [trimSlashes, String.toList_append, String.toList_append, toList_slashes, toList_slashes,
    List.append_assoc, List.dropWhile_append_of_pos (hslash first),
    dropEnds_append_of_pos (hslash last), trimSlashes]

theorem isBare_trimSlashes (text : String) : IsBare text (trimSlashes text) := by
  have hslashes : ∀ cs : List Char, (∀ c ∈ cs, (c == '/') = true) →
      String.ofList cs = slashes cs.length := by
    intro cs hcs
    rw [slashes, ← List.eq_replicate_of_mem fun c hc => eq_of_beq (hcs c hc)]
  obtain ⟨first, last, hfirst, hlast, hsplit⟩ := exists_eq_append_dropEnds (· == '/') text.toList
  refine ⟨⟨first.length, last.length, ?_⟩, ?_, ?_⟩
  · rw [← hslashes first hfirst, ← hslashes last hlast, trimSlashes, ← String.ofList_append,
      ← String.ofList_append, ← hsplit, String.ofList_toList]
  · rw [trimSlashes, String.toList_ofList]
    intro hslash
    exact absurd (eq_false_of_head?_dropEnds hslash) (by decide)
  · rw [trimSlashes, String.toList_ofList]
    intro hslash
    exact absurd (eq_false_of_getLast?_dropEndWhile hslash) (by decide)

/-! ## The whole navigation -/

/-- The navigation is the components by their groups.  There is one group for each name, in the
order in which the names come up, and no name twice.  A group has at least one link, and its links
are those of its components in their order; each path is the slug of the class, below the prefix
without slashes at its ends unless nothing is left of that.  No component is lost, and slashes at
the ends of the prefix do not matter. -/
theorem groups_partition (docs : List ComponentDoc) (urlPrefix : String) :
    let found := groups docs urlPrefix
    found.map Group.name = (docs.map ComponentDoc.groupName).eraseDups ∧
      (found.map Group.name).Nodup ∧
      (∃ bare, IsBare urlPrefix bare ∧ ∀ group ∈ found, group.links ≠ [] ∧
        group.links = (docs.filter fun doc => doc.groupName = group.name).map fun doc =>
          ⟨doc.componentName,
            if bare = "" then Slug.route doc.className
            else bare ++ "/" ++ Slug.route doc.className⟩) ∧
      (found.flatMap Group.links).length = docs.length ∧
      ∀ first last, groups docs (slashes first ++ urlPrefix ++ slashes last) = found := by
  intro found
  have hgrouped : Grouped (trimSlashes urlPrefix) docs found := grouped_groups docs urlPrefix
  refine ⟨hgrouped.names, hgrouped.names ▸ nodup_eraseDups _,
    ⟨trimSlashes urlPrefix, isBare_trimSlashes urlPrefix, ?_⟩, hgrouped.size, ?_⟩
  · intro group hgroup
    have hlinks := hgrouped.links group hgroup
    refine ⟨?_, ?_⟩
    · rw [hlinks, Ne, linksOf_eq_nil_iff, not_not, ← hgrouped.mem_names]
      exact List.mem_map_of_mem hgroup
    · rw [hlinks, linksOf]
      simp only [path, String.isEmpty_iff]
  · intro first last
    simp only [found, groups, trimSlashes_slashes]

/-- A component with nothing but its names. -/
def namedDoc (className componentName groupName : String) : ComponentDoc :=
  ⟨className, componentName, groupName, "", "", none, none, [], ⟨[], []⟩⟩

/-- A group whose components take turns with those of the group without a name. -/
theorem groups_partition_turns :
    let docs := [namedDoc "FooBar" "Foo" "Layout", namedDoc "Input" "Input" "",
      namedDoc "Card2Body" "Card" "Layout"]
    let group : Group := ⟨"Layout", [⟨"Foo", "docs/v1/foo-bar"⟩, ⟨"Card", "docs/v1/card2-body"⟩]⟩
    groups docs "//docs/v1/" = [group, ⟨"", [⟨"Input", "docs/v1/input"⟩]⟩] ∧
      group ∈ groups docs "//docs/v1/" ∧
      ∃ bare, IsBare "//docs/v1/" bare ∧ group.links ≠ [] ∧
        group.links = (docs.filter fun doc => doc.groupName = group.name).map fun doc =>
          ⟨doc.componentName,
            if bare = "" then Slug.route doc.className
            else bare ++ "/" ++ Slug.route doc.className⟩ := by
  intro docs group
  have hfound : groups docs "//docs/v1/" = [group, ⟨"", [⟨"Input", "docs/v1/input"⟩]⟩] := by
    decide +kernel
  have hgroup : group ∈ groups docs "//docs/v1/" := by
    rw [hfound]
    exact List.mem_cons_self
  obtain ⟨-, -, ⟨bare, hbare, hlinks⟩, -, -⟩ := groups_partition docs "//docs/v1/"
  exact ⟨hfound, hgroup, bare, hbare, hlinks group hgroup⟩

end ComponentDocs.Navigation
