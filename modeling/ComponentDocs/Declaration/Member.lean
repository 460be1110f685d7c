import ComponentDocs.Declaration.Decorator
import ComponentDocs.Declaration.Initializer
import ComponentDocs.Declaration.TypeText

/-!
# Members of a class

A member is its decorators, modifier words, a name and a signature.  A modifier word is a modifier
only if a name follows it on the same line; otherwise it is the name itself.  Parameters, bodies
and initializers are skipped.
-/

namespace ComponentDocs

/-- The effect of a modifier word; `declare`, `override`, `async` and `accessor` have none. -/
def Modifiers.add (modifiers : Modifiers) (word : String) : Modifiers :=
  if word = "public" then { modifiers with access := some .publicAccess }
  else if word = "private" then { modifiers with access := some .privateAccess }
  else if word = "protected" then { modifiers with access := some .protectedAccess }
  else if word = "static" then { modifiers with isStatic := true }
  else if word = "readonly" then { modifiers with isReadonly := true }
  else if word = "abstract" then { modifiers with isAbstract := true }
  else modifiers

namespace Declaration

open Terminal

def modifierWords : List String :=
  ["public", "private", "protected", "static", "readonly", "abstract", "declare", "override",
    "async", "accessor"]

/-- The word before this place is a member name, because what follows cannot be one on its line. -/
def endsName : List Terminal → Bool
  | [] => true
  | t :: _ =>
    t.newlineBefore ||
      match t.kind with
      | .colon | .opening .paren | .equals | .semicolon | .question | .bang | .less
      | .closing .brace => true
      | _ => false

def parseModifiers (modifiers : Modifiers) : List Terminal → Modifiers × List Terminal
  | [] => (modifiers, [])
  | t :: rest =>
    if t.kind == .word && modifierWords.contains t.text && !endsName rest then
      parseModifiers (modifiers.add t.text) rest
    else (modifiers, t :: rest)

theorem parseModifiers_suffix (modifiers : Modifiers) (ts : List Terminal) :
    (parseModifiers modifiers ts).2 <:+ ts := by
  fun_induction parseModifiers modifiers ts with
  | case1 => exact List.suffix_rfl
  | case2 _ t rest _ ih => exact ih.trans (List.suffix_cons t rest)
  | case3 => exact List.suffix_rfl

/-- A bracketed name with a type, as in `[key: string]`. -/
def startsIndexSignature : List Terminal → Bool
  | opener :: name :: rest =>
    opener.kind == .opening .square && name.kind == .word && startsWith .colon rest
  | _ => false

/-- The kind of a member so far as it shows before its name, and the place of the name.  Without a
parameter list after the name a property stays one. -/
def parseMemberKind (ts : List Terminal) : Member.Kind × List Terminal :=
  match ts with
  | [] => (.property, [])
  | t :: rest =>
    if (t.isWord "get" || t.isWord "set") && !endsName rest then (.accessor, rest)
    else if t.isWord "constructor" && startsWith (.opening .paren) rest then
      (.constructor, t :: rest)
    else if startsIndexSignature (t :: rest) then (.indexSignature, t :: rest)
    else (.property, t :: rest)

theorem parseMemberKind_suffix (ts : List Terminal) : (parseMemberKind ts).2 <:+ ts := by
  unfold parseMemberKind
  split
  · exact List.suffix_rfl
  · rename_i t rest
    split
    · exact List.suffix_cons t rest
    · split
      · exact List.suffix_rfl
      · split <;> exact List.suffix_rfl

/-- The name of a member, and whether it is a private name. -/
def parseMemberName (ts : List Terminal) : Except Fault ((String × Bool) × List Terminal) :=
  match ts with
  | [] => .error (.atPlace [] (.memberExpected none))
  | t :: rest =>
    match t.kind with
    | .word | .number => .ok ((t.text, false), rest)
    | .string => .ok ((unquote t.text, false), rest)
    | .hash =>
      match rest with
      | [] => .error (.expectedAt [] .privateName)
      | name :: after =>
        if name.kind = .word then .ok (("#" ++ name.text, true), after)
        else .error (.expectedAt (name :: after) .privateName)
    | .opening .square =>
      match skipGroup t .square rest with
      | .error fault => .error fault
      | .ok after => .ok ((capture (t :: rest) after, false), after)
    | _ => .error (.atTerminal t (.memberExpected (some t.text)))

/-- A name has at least one terminal. -/
theorem parseMemberName_suffix {ts after : List Terminal} {name : String × Bool}
    (h : parseMemberName ts = .ok (name, after)) : after <:+ ts ∧ after.length < ts.length := by
  unfold parseMemberName at h
  split at h
  · cases h
  · rename_i t rest
    suffices hrest : after <:+ rest from
      ⟨hrest.trans (List.suffix_cons t rest), Nat.lt_succ_of_le hrest.length_le⟩
    split at h
    · cases h; exact List.suffix_rfl
    · cases h; exact List.suffix_rfl
    · cases h; exact List.suffix_rfl
    · split at h
      · cases h
      · split at h
        · cases h; exact List.suffix_cons _ _
        · cases h
    · split at h
      · cases h
      · rename_i hgroup
        cases h
        exact skipGroup_suffix hgroup
    · cases h

/-- Skips the mark after an optional or definitely assigned name. -/
def skipNameMark (ts : List Terminal) : List Terminal :=
  if startsWith .question ts then skipOptional .question ts else skipOptional .bang ts

theorem skipNameMark_suffix (ts : List Terminal) : skipNameMark ts <:+ ts := by
  unfold skipNameMark
  split <;> exact skipOptional_suffix _ ts

/-- Skips a type after a colon, if there is one. -/
def skipOptionalType : List Terminal → Except Fault (List Terminal)
  | [] => .ok []
  | t :: rest => if t.kind = .colon then skipType rest else .ok (t :: rest)

theorem skipOptionalType_suffix {ts after : List Terminal} (h : skipOptionalType ts = .ok after) :
    after <:+ ts := by
  unfold skipOptionalType at h
  split at h
  · cases h; exact List.suffix_rfl
  · rename_i t rest
    split at h
    · exact (skipType_suffix h).trans (List.suffix_cons t rest)
    · cases h; exact List.suffix_rfl

/-- Skips a body in braces, or else an optional semicolon. -/
def skipBody : List Terminal → Except Fault (List Terminal)
  | [] => .ok []
  | t :: rest =>
    if t.kind = .opening .brace then skipGroup t .brace rest
    else .ok (skipOptional .semicolon (t :: rest))

theorem skipBody_suffix {ts after : List Terminal} (h : skipBody ts = .ok after) :
    after <:+ ts := by
  unfold skipBody at h
  split at h
  · cases h; exact List.suffix_rfl
  · rename_i t rest
    split at h
    · exact (skipGroup_suffix h).trans (List.suffix_cons t rest)
    · cases h; exact skipOptional_suffix _ _

/-- Skips a parameter list. -/
def skipParameters : List Terminal → Except Fault (List Terminal)
  | [] => .error (.atPlace [] .parametersExpected)
  | t :: rest =>
    if t.kind = .opening .paren then skipGroup t .paren rest
    else .error (.atTerminal t .parametersExpected)

theorem skipParameters_suffix {ts after : List Terminal} (h : skipParameters ts = .ok after) :
    after <:+ ts := by
  unfold skipParameters at h
  split at h
  · cases h
  · rename_i t rest
    split at h
    · exact (skipGroup_suffix h).trans (List.suffix_cons t rest)
    · cases h

/-- Skips the signature and body of a method: type parameters, parameters, result type and body. -/
def skipMethod (ts : List Terminal) : Except Fault (List Terminal) := do
  skipBody (← skipOptionalType (← skipParameters (← skipOptionalAngles ts)))

theorem skipMethod_suffix {ts after : List Terminal} (h : skipMethod ts = .ok after) :
    after <:+ ts := by
  obtain ⟨afterAngles, hangles, h⟩ := bind_eq_ok_iff.1 h
  obtain ⟨afterParameters, hparameters, h⟩ := bind_eq_ok_iff.1 h
  obtain ⟨afterType, htype, h⟩ := bind_eq_ok_iff.1 h
  exact (((skipBody_suffix h).trans (skipOptionalType_suffix htype)).trans
    (skipParameters_suffix hparameters)).trans (skipOptionalAngles_suffix hangles)

/-- The declared type of a property, as written. -/
def parsePropertyType : List Terminal → Except Fault (Option String × List Terminal)
  | [] => .ok (none, [])
  | t :: rest =>
    if t.kind = .colon then do
      let after ← skipType rest
      return (some (capture rest after), after)
    else .ok (none, t :: rest)

theorem parsePropertyType_suffix {ts after : List Terminal} {type : Option String}
    (h : parsePropertyType ts = .ok (type, after)) : after <:+ ts := by
  unfold parsePropertyType at h
  split at h
  · cases h; exact List.suffix_rfl
  · rename_i t rest
    split at h
    · obtain ⟨final, htype, h⟩ := bind_eq_ok_iff.1 h
      cases h
      exact (skipType_suffix htype).trans (List.suffix_cons t rest)
    · cases h; exact List.suffix_rfl

/-- Skips an initializer after an equals sign, if there is one. -/
def skipOptionalInitializer : List Terminal → Except Fault (List Terminal)
  | [] => .ok []
  | t :: rest => if t.kind = .equals then skipInitializer false rest else .ok (t :: rest)

theorem skipOptionalInitializer_suffix {ts after : List Terminal}
    (h : skipOptionalInitializer ts = .ok after) : after <:+ ts := by
  unfold skipOptionalInitializer at h
  split at h
  · cases h; exact List.suffix_rfl
  · rename_i t rest
    split at h
    · exact (skipInitializer_suffix h).trans (List.suffix_cons t rest)
    · cases h; exact List.suffix_rfl

/-- What follows the name of a member: its kind, its declared type and the place after it. -/
def parseSignature (kind : Member.Kind) (ts : List Terminal) :
    Except Fault ((Member.Kind × Option String) × List Terminal) :=
  if startsWith .less ts || startsWith (.opening .paren) ts then do
    let after ← skipMethod ts
    return ((if kind = .property then .method else kind, none), after)
  else do
    let (type, afterType) ← parsePropertyType ts
    let after ← skipOptionalInitializer afterType
    return ((kind, type), skipOptional .semicolon after)

theorem parseSignature_suffix {kind : Member.Kind} {ts after : List Terminal}
    {signature : Member.Kind × Option String}
    (h : parseSignature kind ts = .ok (signature, after)) : after <:+ ts := by
  unfold parseSignature at h
  split at h
  · obtain ⟨final, hmethod, h⟩ := bind_eq_ok_iff.1 h
    cases h
    exact skipMethod_suffix hmethod
  · obtain ⟨⟨type, afterType⟩, htype, h⟩ := bind_eq_ok_iff.1 h
    obtain ⟨final, hinitializer, h⟩ := bind_eq_ok_iff.1 h
    cases h
    exact ((skipOptional_suffix _ _).trans (skipOptionalInitializer_suffix hinitializer)).trans
      (parsePropertyType_suffix htype)

/-- The place of the brace after the word `static`, if an initializer block of the class starts
here. -/
def staticBlock? : List Terminal → Option (Terminal × List Terminal)
  | word :: brace :: rest =>
    if word.isWord "static" && brace.kind == .opening .brace then some (brace, rest) else none
  | _ => none

/-- A member after its decorators. -/
def parseUndecorated (doc : Option String) (decorators : List Decorator) (ts : List Terminal) :
    Except Fault (Option Member × List Terminal) :=
  match staticBlock? ts with
  | some (brace, rest) => do
    return (none, ← skipGroup brace .brace rest)
  | none => do
    let (modifiers, afterModifiers) := parseModifiers .none ts
    let (kind, atName) := parseMemberKind (skipOptional .star afterModifiers)
    let ((name, isPrivateName), afterName) ← parseMemberName atName
    let ((kind, type), after) ← parseSignature kind (skipNameMark afterName)
    return (some ⟨kind, name, { modifiers with isPrivateName }, decorators, doc, type⟩, after)

/-- The member that starts here; an initializer block of the class is no member. -/
def parseMember (ts : List Terminal) : Except Fault (Option Member × List Terminal) := do
  let (decorators, afterDecorators) ← parseDecorators ts
  parseUndecorated (ts.head?.bind Terminal.doc) decorators afterDecorators

theorem staticBlock?_suffix {ts rest : List Terminal} {brace : Terminal}
    (h : staticBlock? ts = some (brace, rest)) :
    brace :: rest <:+ ts ∧ rest.length < ts.length := by
  unfold staticBlock? at h
  split at h
  · split at h
    · cases h
      exact ⟨List.suffix_cons _ _, by simp only [List.length_cons]; omega⟩
    · cases h
  · cases h

/-- A member has at least one terminal. -/
theorem parseUndecorated_suffix {doc : Option String} {decorators : List Decorator}
    {ts after : List Terminal} {member : Option Member}
    (h : parseUndecorated doc decorators ts = .ok (member, after)) :
    after <:+ ts ∧ after.length < ts.length := by
  unfold parseUndecorated at h
  split at h
  · rename_i brace rest hblock
    obtain ⟨final, hgroup, h⟩ := bind_eq_ok_iff.1 h
    cases h
    have hstatic := staticBlock?_suffix hblock
    have hsuffix := skipGroup_suffix hgroup
    exact ⟨hsuffix.trans ((List.suffix_cons brace rest).trans hstatic.1),
      Nat.lt_of_le_of_lt hsuffix.length_le hstatic.2⟩
  · obtain ⟨⟨⟨name, isPrivateName⟩, afterName⟩, hname, h⟩ := bind_eq_ok_iff.1 h
    obtain ⟨⟨⟨kind, type⟩, final⟩, hsignature, h⟩ := bind_eq_ok_iff.1 h
    cases h
    have hbefore := ((parseMemberKind_suffix _).trans (skipOptional_suffix .star _)).trans
      (parseModifiers_suffix .none ts)
    have hfrom := (parseSignature_suffix hsignature).trans (skipNameMark_suffix afterName)
    have hnamed := parseMemberName_suffix hname
    exact ⟨hfrom.trans (hnamed.1.trans hbefore),
      Nat.lt_of_le_of_lt hfrom.length_le (Nat.lt_of_lt_of_le hnamed.2 hbefore.length_le)⟩

theorem parseMember_suffix {ts after : List Terminal} {member : Option Member}
    (h : parseMember ts = .ok (member, after)) : after <:+ ts ∧ after.length < ts.length := by
  obtain ⟨⟨decorators, afterDecorators⟩, hdecorators, h⟩ := bind_eq_ok_iff.1 h
  have hbefore := parseDecorators_suffix hdecorators
  have hmember := parseUndecorated_suffix h
  exact ⟨hmember.1.trans hbefore, Nat.lt_of_lt_of_le hmember.2 hbefore.length_le⟩

end Declaration

end ComponentDocs
