import ComponentDocs.Declaration.Member
import ComponentDocs.Logged

/-!
# Classes

A class is its header (name, type parameters, base class), an optional list of interfaces, and
members in braces.  The base class is kept if it is a plain dotted name; anything computed is
skipped.  A class without a name is read and dropped.
-/

namespace ComponentDocs

/-- What is worth a remark while a file is read. -/
inductive Remark where
  /-- The base of a class is not a plain name. -/
  | computedBase
  /-- A class without a name at this line. -/
  | anonymousClass (line : Nat)
  deriving DecidableEq

/-- What a class header says about the base class. -/
inductive Heritage where
  | absent
  | plain (name : String)
  | computed
  deriving DecidableEq

namespace Heritage

def name? : Heritage → Option String
  | .plain name => some name
  | _ => none

def remarks : Heritage → List Remark
  | .computed => [.computedBase]
  | _ => []

end Heritage

namespace Declaration

open Terminal

/-- The last part of a dotted name, if there is a name here, and the place after it. -/
def parseBaseName : List Terminal → Option String × List Terminal
  | [] => (none, [])
  | name :: rest =>
    if name.kind = .word then
      match rest with
      | [] => (some name.text, [])
      | dot :: after =>
        if dot.kind = .dot then
          let (last, final) := parseBaseName after
          (some (last.getD name.text), final)
        else (some name.text, dot :: after)
    else (none, name :: rest)

theorem parseBaseName_suffix (ts : List Terminal) : (parseBaseName ts).2 <:+ ts := by
  fun_induction parseBaseName ts with
  | case1 => exact List.suffix_rfl
  | case2 => exact List.nil_suffix
  | case3 name _ dot after _ last final hbase ih =>
    rw [hbase] at ih
    exact (ih.trans (List.suffix_cons dot after)).trans (List.suffix_cons name _)
  | case4 name => exact List.suffix_cons name _
  | case5 => exact List.suffix_rfl

/-- Skips a computed base up to the interfaces or the body. -/
def skipComputedBase (ts : List Terminal) : Except Fault (List Terminal) :=
  match ts with
  | [] => .ok []
  | t :: rest =>
    if t.kind = .opening .brace ∨ t.isWord "implements" then .ok (t :: rest)
    else
      match _h : skipItem t rest with
      | .error fault => .error fault
      | .ok after => skipComputedBase after
termination_by ts.length
decreasing_by exact skipItem_length_lt _h

theorem skipComputedBase_suffix {ts after : List Terminal} (h : skipComputedBase ts = .ok after) :
    after <:+ ts := by
  fun_induction skipComputedBase ts with
  | case1 => cases h; exact List.suffix_rfl
  | case2 => cases h; exact List.suffix_rfl
  | case3 => cases h
  | case4 t rest _ next hitem ih =>
    exact ((ih h).trans (skipItem_suffix hitem)).trans (List.suffix_cons t rest)

/-- The base class after the word `extends`. -/
def parseBase (ts : List Terminal) : Except Fault (Heritage × List Terminal) := do
  let (name, afterName) := parseBaseName ts
  let after ← skipOptionalAngles afterName
  match name with
  | some name =>
    if startsWith (.opening .paren) after then return (.computed, ← skipComputedBase after)
    else return (.plain name, after)
  | none => return (.computed, ← skipComputedBase after)

theorem parseBase_suffix {ts after : List Terminal} {heritage : Heritage}
    (h : parseBase ts = .ok (heritage, after)) : after <:+ ts := by
  unfold parseBase at h
  obtain ⟨afterAngles, hangles, h⟩ := bind_eq_ok_iff.1 h
  have hbefore := (skipOptionalAngles_suffix hangles).trans (parseBaseName_suffix ts)
  split at h
  · split at h
    · obtain ⟨final, hcomputed, h⟩ := bind_eq_ok_iff.1 h
      cases h
      exact (skipComputedBase_suffix hcomputed).trans hbefore
    · cases h
      exact hbefore
  · obtain ⟨final, hcomputed, h⟩ := bind_eq_ok_iff.1 h
    cases h
    exact (skipComputedBase_suffix hcomputed).trans hbefore

/-- The heritage of a class: what follows `extends`, if that word stands here. -/
def parseHeritage : List Terminal → Except Fault (Heritage × List Terminal)
  | [] => .ok (.absent, [])
  | t :: rest => if t.isWord "extends" then parseBase rest else .ok (.absent, t :: rest)

theorem parseHeritage_suffix {ts after : List Terminal} {heritage : Heritage}
    (h : parseHeritage ts = .ok (heritage, after)) : after <:+ ts := by
  unfold parseHeritage at h
  split at h
  · cases h; exact List.suffix_rfl
  · rename_i t rest
    split at h
    · exact (parseBase_suffix h).trans (List.suffix_cons t rest)
    · cases h; exact List.suffix_rfl

/-- The name of a class, if it has one. -/
def parseClassName : List Terminal → Option String × List Terminal
  | [] => (none, [])
  | t :: rest =>
    if t.kind == .word && t.text != "extends" && t.text != "implements" then (some t.text, rest)
    else (none, t :: rest)

theorem parseClassName_suffix (ts : List Terminal) : (parseClassName ts).2 <:+ ts := by
  unfold parseClassName
  split
  · exact List.suffix_rfl
  · rename_i t rest
    split
    · exact List.suffix_cons t rest
    · exact List.suffix_rfl

/-- Name and heritage of a class, after the word `class`. -/
def parseHeader (ts : List Terminal) :
    Except Fault ((Option String × Heritage) × List Terminal) := do
  let (name, afterName) := parseClassName ts
  let (heritage, after) ← parseHeritage (← skipOptionalAngles afterName)
  return ((name, heritage), after)

theorem parseHeader_suffix {ts after : List Terminal} {header : Option String × Heritage}
    (h : parseHeader ts = .ok (header, after)) : after <:+ ts := by
  unfold parseHeader at h
  obtain ⟨afterAngles, hangles, h⟩ := bind_eq_ok_iff.1 h
  obtain ⟨⟨heritage, final⟩, hheritage, h⟩ := bind_eq_ok_iff.1 h
  cases h
  exact ((parseHeritage_suffix hheritage).trans (skipOptionalAngles_suffix hangles)).trans
    (parseClassName_suffix ts)

/-- Skips everything up to the brace that opens the class body. -/
def skipToBody (ts : List Terminal) : Except Fault (List Terminal) :=
  match ts with
  | [] => .ok []
  | t :: rest =>
    if t.kind = .opening .brace then .ok (t :: rest)
    else if t.kind = .less then
      match _h : skipAngles t rest with
      | .error fault => .error fault
      | .ok after => skipToBody after
    else skipToBody rest
termination_by ts.length
decreasing_by
  · exact Nat.lt_succ_of_le (skipAngles_suffix _h).length_le
  · simp

theorem skipToBody_suffix {ts after : List Terminal} (h : skipToBody ts = .ok after) :
    after <:+ ts := by
  fun_induction skipToBody ts with
  | case1 => cases h; exact List.suffix_rfl
  | case2 => cases h; exact List.suffix_rfl
  | case3 => cases h
  | case4 t rest _ _ next hangles ih =>
    exact ((ih h).trans (skipAngles_suffix hangles)).trans (List.suffix_cons t rest)
  | case5 t rest _ _ ih => exact (ih h).trans (List.suffix_cons t rest)

/-- Skips the interfaces of a class. -/
def skipInterfaces (ts : List Terminal) : Except Fault (List Terminal) :=
  if startsWithWord "implements" ts then skipToBody ts else .ok ts

theorem skipInterfaces_suffix {ts after : List Terminal} (h : skipInterfaces ts = .ok after) :
    after <:+ ts := by
  unfold skipInterfaces at h
  split at h
  · exact skipToBody_suffix h
  · cases h; exact List.suffix_rfl

/-- The members up to the brace that closes the class body opened by `opener`. -/
def parseMembers (opener : Terminal) (ts : List Terminal) :
    Except Fault (List Member × List Terminal) :=
  match ts with
  | [] => .error (.atTerminal opener .classBodyOpen)
  | t :: rest =>
    if t.kind = .semicolon then parseMembers opener rest
    else if t.kind = .closing .brace then .ok ([], rest)
    else
      match _h : parseMember (t :: rest) with
      | .error fault => .error fault
      | .ok (member, after) =>
        match parseMembers opener after with
        | .error fault => .error fault
        | .ok (members, final) => .ok (member.toList ++ members, final)
termination_by ts.length
decreasing_by
  · simp
  · exact (parseMember_suffix _h).2

theorem parseMembers_suffix {opener : Terminal} {ts after : List Terminal} {members : List Member}
    (h : parseMembers opener ts = .ok (members, after)) : after <:+ ts := by
  fun_induction parseMembers opener ts generalizing members with
  | case1 => cases h
  | case2 t rest _ ih => exact (ih h).trans (List.suffix_cons t rest)
  | case3 t => cases h; exact List.suffix_cons t _
  | case4 => cases h
  | case5 => cases h
  | case6 t rest _ _ member next hmember others final hothers ih =>
    cases h
    exact (ih hothers).trans (parseMember_suffix hmember).1

/-- The members of a class, after its header. -/
def parseBody (ts : List Terminal) : Except Fault (List Member × List Terminal) := do
  match ← skipInterfaces ts with
  | [] => .error (.expectedAt [] .classBody)
  | t :: rest =>
    if t.kind = .opening .brace then parseMembers t rest
    else .error (.expectedAt (t :: rest) .classBody)

theorem parseBody_suffix {ts after : List Terminal} {members : List Member}
    (h : parseBody ts = .ok (members, after)) : after <:+ ts := by
  unfold parseBody at h
  obtain ⟨atBody, hinterfaces, h⟩ := bind_eq_ok_iff.1 h
  split at h
  · cases h
  · rename_i t rest
    split at h
    · exact ((parseMembers_suffix h).trans (List.suffix_cons t rest)).trans
        (skipInterfaces_suffix hinterfaces)
    · cases h

/-- The class after the word `class`, with what was found before that word. -/
def parseClass (line : Nat) (doc : Option String) (decorators : List Decorator)
    (ts : List Terminal) : Logged Remark (Except Fault (Option ClassDecl × List Terminal)) :=
  match parseHeader ts with
  | .error fault => ⟨[], .error fault⟩
  | .ok ((name, heritage), afterHeader) =>
    match parseBody afterHeader with
    | .error fault => ⟨heritage.remarks, .error fault⟩
    | .ok (members, after) =>
      match name with
      | none => ⟨heritage.remarks ++ [.anonymousClass line], .ok (none, after)⟩
      | some name =>
        ⟨heritage.remarks,
          .ok (some ⟨name, line, doc, decorators, heritage.name?, members⟩, after)⟩

theorem parseClass_suffix {line : Nat} {doc : Option String} {decorators : List Decorator}
    {ts after : List Terminal} {decl : Option ClassDecl}
    (h : (parseClass line doc decorators ts).value = .ok (decl, after)) : after <:+ ts := by
  unfold parseClass at h
  split at h
  · cases h
  · rename_i hheader
    split at h
    · cases h
    · rename_i hbody
      have hsuffix := (parseBody_suffix hbody).trans (parseHeader_suffix hheader)
      split at h <;> cases h <;> exact hsuffix

end Declaration

end ComponentDocs
