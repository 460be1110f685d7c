import ComponentDocs.Proofs.Declaration.Boundary
import ComponentDocs.Proofs.Declaration.Passes

/-!
# The passes of the loops around classes

The loops over the declarations of a file, the parts of a class header and the members of a class.
-/

namespace ComponentDocs.Declaration

open Terminal

/-! ## Classes -/

def baseNamePass : Unit → List Terminal → Except Fault (Pass Unit (Option String × List Terminal))
  | (), [] => .ok (.done (none, []))
  | (), name :: rest =>
    if name.kind = .word then
      match rest with
      | [] => .ok (.done (some name.text, []))
      | dot :: after =>
        if dot.kind = .dot then
          .ok (.next () after fun (last, final) => (some (last.getD name.text), final))
        else .ok (.done (some name.text, dot :: after))
    else .ok (.done (none, name :: rest))

/-- The loop over the dotted name of a base class. -/
def baseNameLoop : Loop :=
  ⟨_, _, baseNamePass, fun _ ts => .ok (parseBaseName ts)⟩

theorem progresses_baseNameLoop : baseNameLoop.Progresses := by
  refine .intro ?_ ?_
  · intro memory ts next after finish h
    cases ts with
    | nil => cases h
    | cons name rest =>
      unfold baseNamePass at h
      dsimp only at h
      split at h
      · split at h
        · cases h
        · split at h
          · cases h
            exact past_cons (List.suffix_cons _ _)
          · cases h
      · cases h
  · intro memory ts
    cases ts with
    | nil => rfl
    | cons name rest =>
      rw [parseBaseName_cons, baseNamePass.eq_def]
      dsimp only
      split
      · cases rest with
        | nil => rfl
        | cons dot after =>
          dsimp only
          split <;> rfl
      · rfl

/-- The loop over a base class that is not a plain name. -/
def computedBaseLoop : Loop :=
  ⟨_, _, stretchPass fun t => t.kind = .opening .brace ∨ t.isWord "implements",
    fun _ => skipComputedBase⟩

theorem progresses_computedBaseLoop : computedBaseLoop.Progresses :=
  progresses_stretch (by rw [skipComputedBase]) skipComputedBase_cons

def interfacesPass : Unit → List Terminal → Except Fault (Pass Unit (List Terminal))
  | (), [] => .ok (.done [])
  | (), t :: rest =>
    if t.kind = .opening .brace then .ok (.done (t :: rest))
    else if t.kind = .less then (skipAngles t rest).map fun after => .next () after id
    else .ok (.next () rest id)

/-- The loop over the interfaces of a class. -/
def interfacesLoop : Loop :=
  ⟨_, _, interfacesPass, fun _ => skipToBody⟩

theorem progresses_interfacesLoop : interfacesLoop.Progresses := by
  refine .intro ?_ ?_
  · intro memory ts next after finish h
    cases ts with
    | nil => cases h
    | cons t rest =>
      rw [interfacesPass] at h
      split at h
      · cases h
      · split at h
        · exact past_of_map_next skipAngles_suffix h
        · cases h
          exact past_cons List.suffix_rfl
  · intro memory ts
    cases ts with
    | nil =>
      rw [skipToBody]
      rfl
    | cons t rest =>
      rw [skipToBody_cons, interfacesPass]
      split
      · rfl
      · split
        · rw [resume_map_next]
        · exact (map_id_eq _).symm

def membersPass (opener : Terminal) :
    Unit → List Terminal → Except Fault (Pass Unit (List Member × List Terminal))
  | (), [] => .error (.atTerminal opener .classBodyOpen)
  | (), t :: rest =>
    if t.kind = .semicolon then .ok (.next () rest id)
    else if t.kind = .closing .brace then .ok (.done ([], rest))
    else
      (parseMember (t :: rest)).map fun (member, after) =>
        .next () after fun (members, final) => (member.toList ++ members, final)

/-- The loop over the members of a class and the semicolons between them. -/
def membersLoop (opener : Terminal) : Loop :=
  ⟨_, _, membersPass opener, fun _ => parseMembers opener⟩

theorem progresses_membersLoop (opener : Terminal) : (membersLoop opener).Progresses := by
  refine .intro ?_ ?_
  · intro memory ts next after finish h
    cases ts with
    | nil => cases h
    | cons t rest =>
      rw [membersPass] at h
      split at h
      · cases h
        exact past_cons List.suffix_rfl
      · split at h
        · cases h
        · obtain ⟨⟨member, place⟩, hmember, hnext⟩ := map_eq_ok_iff.1 h
          cases hnext
          obtain ⟨hsuffix, hshorter⟩ := parseMember_suffix hmember
          exact past_of_length_lt hsuffix hshorter
  · intro memory ts
    cases ts with
    | nil =>
      rw [parseMembers]
      rfl
    | cons t rest =>
      rw [parseMembers_cons, membersPass]
      split
      · exact (map_id_eq _).symm
      · split
        · rfl
        · rw [map_bind_eq]
          rfl

def modifiersPass :
    Modifiers → List Terminal → Except Fault (Pass Modifiers (Modifiers × List Terminal))
  | modifiers, [] => .ok (.done (modifiers, []))
  | modifiers, t :: rest =>
    if t.kind == .word && modifierWords.contains t.text && !endsName rest then
      .ok (.next (modifiers.add t.text) rest id)
    else .ok (.done (modifiers, t :: rest))

/-- The loop over modifier words remembers the modifiers so far. -/
def modifiersLoop : Loop :=
  ⟨_, _, modifiersPass, fun modifiers ts => .ok (parseModifiers modifiers ts)⟩

theorem progresses_modifiersLoop : modifiersLoop.Progresses := by
  refine .intro ?_ ?_
  · intro modifiers ts next after finish h
    cases ts with
    | nil => cases h
    | cons t rest =>
      rw [modifiersPass] at h
      split at h
      · cases h
        exact past_cons List.suffix_rfl
      · cases h
  · intro modifiers ts
    cases ts with
    | nil => rfl
    | cons t rest =>
      rw [parseModifiers, modifiersPass]
      split <;> rfl

/-! ## Files -/

def declarationsPass : Unit → List Terminal → Except Fault (Pass Unit (List ClassDecl))
  | (), [] => .ok (.done [])
  | (), start :: rest =>
    (parseDeclaration start rest).value.map fun (decl, after) =>
      .next () after (decl.toList ++ ·)

/-- The loop over the declarations of a file. -/
def declarationsLoop : Loop :=
  ⟨_, _, declarationsPass, fun _ ts => (parseDeclarations ts).value⟩

theorem progresses_declarationsLoop : declarationsLoop.Progresses := by
  refine .intro ?_ ?_
  · intro memory ts next after finish h
    cases ts with
    | nil => cases h
    | cons start rest =>
      obtain ⟨⟨decl, place⟩, hdeclaration, hnext⟩ := map_eq_ok_iff.1 h
      cases hnext
      exact past_of_length_lt (parseDeclaration_suffix hdeclaration)
        (parseDeclaration_length_lt hdeclaration)
  · intro memory ts
    cases ts with
    | nil =>
      rw [parseDeclarations]
      rfl
    | cons start rest =>
      rw [value_parseDeclarations_cons, declarationsPass, map_bind_eq]
      rfl

def exportWordsPass : Unit → List Terminal → Except Fault (Pass Unit (List Terminal))
  | (), [] => .ok (.done [])
  | (), t :: rest =>
    if t.isWord "export" || t.isWord "default" then .ok (.next () rest id)
    else if (t.isWord "declare" || t.isWord "abstract") && startsWith .word rest then
      .ok (.next () rest id)
    else .ok (.done (t :: rest))

/-- The loop over the words before `class`. -/
def exportWordsLoop : Loop :=
  ⟨_, _, exportWordsPass, fun _ ts => .ok (skipExportWords ts)⟩

theorem progresses_exportWordsLoop : exportWordsLoop.Progresses := by
  refine .intro ?_ ?_
  · intro memory ts next after finish h
    cases ts with
    | nil => cases h
    | cons t rest =>
      rw [exportWordsPass] at h
      split at h
      · cases h
        exact past_cons List.suffix_rfl
      · split at h
        · cases h
          exact past_cons List.suffix_rfl
        · cases h
  · intro memory ts
    cases ts with
    | nil => rfl
    | cons t rest =>
      rw [skipExportWords, exportWordsPass]
      split
      · rfl
      · split <;> rfl

end ComponentDocs.Declaration
