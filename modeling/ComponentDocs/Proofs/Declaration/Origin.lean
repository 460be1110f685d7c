import ComponentDocs.Proofs.Declaration.Boundary

/-!
# Where decorators and types are read

Whatever is nested in the classes of a file was read somewhere in it: each decorator at an at sign,
and each type of a member at some place of the file.  The relations `DecoratorIn` and `TypeIn` say
so, and each parser on the way from a file to them has one lemma that hands them up.
-/

namespace ComponentDocs.Declaration

open Terminal

variable {ts us after : List Terminal}

/-- The decorator is read at an at sign of the place. -/
def DecoratorIn (ts : List Terminal) (decorator : Decorator) : Prop :=
  ∃ sign rest after, sign :: rest <:+ ts ∧ sign.kind = .atSign ∧
    parseDecorator sign rest = .ok (decorator, after)

/-- The text is that of a type in the place. -/
def TypeIn (ts : List Terminal) (type : String) : Prop :=
  ∃ rest after, rest <:+ ts ∧ skipType rest = .ok after ∧ type = capture rest after

structure MemberIn (ts : List Terminal) (member : Member) : Prop where
  decorators : ∀ decorator ∈ member.decorators, DecoratorIn ts decorator
  type : ∀ type ∈ member.type, TypeIn ts type

structure ClassIn (ts : List Terminal) (decl : ClassDecl) : Prop where
  decorators : ∀ decorator ∈ decl.decorators, DecoratorIn ts decorator
  members : ∀ member ∈ decl.members, MemberIn ts member

theorem DecoratorIn.of_suffix {decorator : Decorator} (h : DecoratorIn us decorator)
    (hsuffix : us <:+ ts) : DecoratorIn ts decorator := by
  obtain ⟨sign, rest, after, hsign, hread⟩ := h
  exact ⟨sign, rest, after, hsign.trans hsuffix, hread⟩

theorem TypeIn.of_suffix {type : String} (h : TypeIn us type) (hsuffix : us <:+ ts) :
    TypeIn ts type := by
  obtain ⟨rest, after, hrest, hread⟩ := h
  exact ⟨rest, after, hrest.trans hsuffix, hread⟩

theorem MemberIn.of_suffix {member : Member} (h : MemberIn us member) (hsuffix : us <:+ ts) :
    MemberIn ts member :=
  ⟨fun decorator hdecorator => (h.decorators decorator hdecorator).of_suffix hsuffix,
    fun type htype => (h.type type htype).of_suffix hsuffix⟩

theorem ClassIn.of_suffix {decl : ClassDecl} (h : ClassIn us decl) (hsuffix : us <:+ ts) :
    ClassIn ts decl :=
  ⟨fun decorator hdecorator => (h.decorators decorator hdecorator).of_suffix hsuffix,
    fun member hmember => (h.members member hmember).of_suffix hsuffix⟩

/-! ## Decorators -/

theorem parseDecorators_in {decorators : List Decorator}
    (h : parseDecorators ts = .ok (decorators, after)) :
    ∀ decorator ∈ decorators, DecoratorIn ts decorator := by
  fun_induction parseDecorators ts generalizing decorators with
  | case1 =>
    cases h
    exact List.forall_mem_nil _
  | case2 => cases h
  | case3 => cases h
  | case4 t rest hsign decorator next hdecorator others final hothers ih =>
    cases h
    have hnext := (parseDecorator_suffix hdecorator).trans (List.suffix_cons t rest)
    rintro other (_ | ⟨_, hother⟩)
    · exact ⟨t, rest, next, List.suffix_rfl, hsign, hdecorator⟩
    · exact (ih hothers other hother).of_suffix hnext
  | case5 =>
    cases h
    exact List.forall_mem_nil _

theorem parsePreamble_in {decorators : List Decorator}
    (h : parsePreamble ts = .ok (decorators, after)) :
    ∀ decorator ∈ decorators, DecoratorIn ts decorator := by
  obtain ⟨⟨before, afterBefore⟩, hbefore, h⟩ := bind_eq_ok_iff.1 h
  obtain ⟨⟨behind, final⟩, hbehind, h⟩ := bind_eq_ok_iff.1 h
  cases h
  have hwords := (skipExportWords_suffix afterBefore).trans (parseDecorators_suffix hbefore)
  intro decorator hdecorator
  rcases List.mem_append.1 hdecorator with hdecorator | hdecorator
  · exact parseDecorators_in hbefore decorator hdecorator
  · exact (parseDecorators_in hbehind decorator hdecorator).of_suffix hwords

/-! ## Members -/

theorem parsePropertyType_in {type : Option String}
    (h : parsePropertyType ts = .ok (type, after)) : ∀ text ∈ type, TypeIn ts text := by
  unfold parsePropertyType at h
  split at h
  · cases h
    rintro text ⟨⟩
  · rename_i t rest
    split at h
    · obtain ⟨final, htype, h⟩ := bind_eq_ok_iff.1 h
      cases h
      rintro text ⟨⟩
      exact ⟨rest, after, List.suffix_cons t rest, htype, rfl⟩
    · cases h
      rintro text ⟨⟩

theorem parseSignature_in {kind found : Member.Kind} {type : Option String}
    (h : parseSignature kind ts = .ok ((found, type), after)) : ∀ text ∈ type, TypeIn ts text := by
  unfold parseSignature at h
  split at h
  · obtain ⟨final, hmethod, h⟩ := bind_eq_ok_iff.1 h
    cases h
    rintro text ⟨⟩
  · obtain ⟨⟨found, afterType⟩, htype, h⟩ := bind_eq_ok_iff.1 h
    obtain ⟨final, hinitializer, h⟩ := bind_eq_ok_iff.1 h
    cases h
    exact parsePropertyType_in htype

theorem parseUndecorated_in {doc : Option String} {decorators : List Decorator}
    {member : Option Member} (h : parseUndecorated doc decorators ts = .ok (member, after)) :
    ∀ found ∈ member, found.decorators = decorators ∧ ∀ type ∈ found.type, TypeIn ts type := by
  unfold parseUndecorated at h
  split at h
  · obtain ⟨final, hgroup, h⟩ := bind_eq_ok_iff.1 h
    cases h
    rintro found ⟨⟩
  · obtain ⟨⟨⟨name, isPrivateName⟩, afterName⟩, hname, h⟩ := bind_eq_ok_iff.1 h
    obtain ⟨⟨⟨kind, type⟩, final⟩, hsignature, h⟩ := bind_eq_ok_iff.1 h
    cases h
    have hbefore := ((parseMemberKind_suffix _).trans (skipOptional_suffix .star _)).trans
      (parseModifiers_suffix .none ts)
    have hmark := (skipNameMark_suffix afterName).trans
      ((parseMemberName_suffix hname).1.trans hbefore)
    have htypes := parseSignature_in hsignature
    rintro found ⟨⟩
    refine ⟨rfl, fun text htext => ?_⟩
    exact (htypes text htext).of_suffix hmark

theorem parseMember_in {member : Option Member} (h : parseMember ts = .ok (member, after)) :
    ∀ found ∈ member, MemberIn ts found := by
  obtain ⟨⟨decorators, afterDecorators⟩, hdecorators, h⟩ := bind_eq_ok_iff.1 h
  intro found hfound
  obtain ⟨heq, htype⟩ := parseUndecorated_in h found hfound
  refine ⟨?_, fun type hmem => (htype type hmem).of_suffix (parseDecorators_suffix hdecorators)⟩
  rw [heq]
  exact parseDecorators_in hdecorators

theorem parseMembers_in {opener : Terminal} {members : List Member}
    (h : parseMembers opener ts = .ok (members, after)) :
    ∀ member ∈ members, MemberIn ts member := by
  fun_induction parseMembers opener ts generalizing members with
  | case1 => cases h
  | case2 t rest _ ih =>
    intro member hmember
    exact (ih h member hmember).of_suffix (List.suffix_cons t rest)
  | case3 =>
    cases h
    exact List.forall_mem_nil _
  | case4 => cases h
  | case5 => cases h
  | case6 t rest _ _ member next hmember others final hothers ih =>
    cases h
    intro found hfound
    rcases List.mem_append.1 hfound with hfound | hfound
    · exact parseMember_in hmember found (Option.mem_toList.1 hfound)
    · exact (ih hothers found hfound).of_suffix (parseMember_suffix hmember).1

/-! ## Classes -/

theorem parseBody_in {members : List Member} (h : parseBody ts = .ok (members, after)) :
    ∀ member ∈ members, MemberIn ts member := by
  unfold parseBody at h
  obtain ⟨atBody, hinterfaces, h⟩ := bind_eq_ok_iff.1 h
  split at h
  · cases h
  · rename_i t rest
    split at h
    · intro member hmember
      exact (parseMembers_in h member hmember).of_suffix
        ((List.suffix_cons t rest).trans (skipInterfaces_suffix hinterfaces))
    · cases h

theorem parseClassOrStatement_in {start : Terminal} {decorators : List Decorator}
    {decl : Option ClassDecl}
    (h : (parseClassOrStatement start decorators ts).value = .ok (decl, after)) :
    ∀ found ∈ decl, found.decorators = decorators ∧
      ∀ member ∈ found.members, MemberIn ts member := by
  unfold parseClassOrStatement at h
  split at h
  · cases h
    rintro found ⟨⟩
  · rename_i t rest
    split at h
    · rw [value_parseClass] at h
      obtain ⟨⟨⟨name, heritage⟩, afterHeader⟩, hheader, h⟩ := bind_eq_ok_iff.1 h
      obtain ⟨⟨members, final⟩, hbody, h⟩ := bind_eq_ok_iff.1 h
      cases h
      intro found hfound
      obtain ⟨name, rfl, rfl⟩ := Option.map_eq_some_iff.1 hfound
      refine ⟨rfl, fun member hmember => ?_⟩
      exact (parseBody_in hbody member hmember).of_suffix
        ((parseHeader_suffix hheader).trans (List.suffix_cons t rest))
    · obtain ⟨final, hstatement, h⟩ := map_eq_ok_iff.1 h
      cases h
      rintro found ⟨⟩

theorem parseDeclaration_in {start : Terminal} {rest : List Terminal} {decl : Option ClassDecl}
    (h : (parseDeclaration start rest).value = .ok (decl, after)) :
    ∀ found ∈ decl, ClassIn (start :: rest) found := by
  rw [value_parseDeclaration] at h
  obtain ⟨⟨decorators, afterPreamble⟩, hpreamble, h⟩ := bind_eq_ok_iff.1 h
  intro found hfound
  obtain ⟨heq, hmembers⟩ := parseClassOrStatement_in h found hfound
  refine ⟨?_, fun member hmember => (hmembers member hmember).of_suffix
    (parsePreamble_suffix hpreamble)⟩
  rw [heq]
  exact parsePreamble_in hpreamble

/-- All that is nested in the classes of a file was read in it. -/
theorem parseDeclarations_in {ts : List Terminal} {classes : List ClassDecl}
    (h : (parseDeclarations ts).value = .ok classes) : ∀ decl ∈ classes, ClassIn ts decl := by
  cases ts with
  | nil =>
    rw [parseDeclarations] at h
    cases h
    exact List.forall_mem_nil _
  | cons start rest =>
    rw [value_parseDeclarations_cons] at h
    obtain ⟨⟨decl, after⟩, hdeclaration, h⟩ := bind_eq_ok_iff.1 h
    obtain ⟨others, hothers, h⟩ := map_eq_ok_iff.1 h
    cases h
    have hshorter := parseDeclaration_length_lt hdeclaration
    intro found hfound
    rcases List.mem_append.1 hfound with hfound | hfound
    · exact parseDeclaration_in hdeclaration found (Option.mem_toList.1 hfound)
    · exact (parseDeclarations_in hothers found hfound).of_suffix
        (parseDeclaration_suffix hdeclaration)
termination_by ts.length

end ComponentDocs.Declaration
