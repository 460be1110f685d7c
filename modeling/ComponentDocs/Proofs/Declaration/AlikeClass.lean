import ComponentDocs.Proofs.Declaration.Alike

/-!
# Members, classes and files that look alike

The same for members, classes and whole files.  Members and classes agree in everything but their
lines, their doc blocks and the texts that are kept as written, which correspond as the likeness
says (`value_parseDeclarations_agree`).
-/

namespace ComponentDocs

namespace Likeness

variable (L : Likeness)

/-- Two members that agree up to the likeness. -/
structure Members (member other : Member) : Prop where
  kind : other.kind = member.kind
  name : L.name member.name other.name
  modifiers : other.modifiers = member.modifiers
  decorators : L.Decorators member.decorators other.decorators
  doc : L.doc member.doc other.doc
  type : other.type.map L.slice = member.type.map L.slice

/-- Two classes that agree up to the likeness. -/
structure Classes (decl other : ClassDecl) : Prop where
  name : other.name = decl.name
  line : L.line decl.line other.line
  doc : L.doc decl.doc other.doc
  decorators : L.Decorators decl.decorators other.decorators
  base : other.base = decl.base
  members : List.Forall₂ L.Members decl.members other.members

end Likeness

namespace Declaration

open Terminal Likeness

variable {L : Likeness} {ts us : List Terminal}

/-! ## Members -/

theorem endsName_eq (h : L.Places ts us) : endsName us = endsName ts := by
  cases h with
  | nil => rfl
  | cons ht hrest => simp only [endsName, L.kind_eq ht, L.newlineBefore_eq ht]

theorem parseModifiers_reads (modifiers : Modifiers) (h : L.Places ts us) :
    L.Reads Eq (parseModifiers modifiers ts) (parseModifiers modifiers us) := by
  induction h generalizing modifiers with
  | nil => exact ⟨rfl, .nil⟩
  | cons ht hrest ih =>
    rw [parseModifiers, parseModifiers, L.kind_eq ht, L.text_eq ht, endsName_eq hrest]
    split
    · exact ih _
    · exact ⟨rfl, .cons ht hrest⟩

theorem startsIndexSignature_eq (h : L.Places ts us) :
    startsIndexSignature us = startsIndexSignature ts := by
  match ts, us, h with
  | [], [], .nil => rfl
  | [_], [_], .cons _ .nil => rfl
  | t :: name :: rest, u :: name' :: others, .cons ht (.cons hname hrest) =>
    simp only [startsIndexSignature, L.kind_eq ht, L.kind_eq hname, startsWith_eq hrest]

theorem parseMemberKind_reads (h : L.Places ts us) :
    L.Reads Eq (parseMemberKind ts) (parseMemberKind us) := by
  cases h with
  | nil => exact ⟨rfl, .nil⟩
  | @cons t u rest others ht hrest =>
    rw [parseMemberKind, parseMemberKind, startsIndexSignature_eq (.cons ht hrest)]
    simp only [isWord_eq ht, endsName_eq hrest, startsWith_eq hrest]
    split
    · exact ⟨rfl, hrest⟩
    · split
      · exact ⟨rfl, .cons ht hrest⟩
      · split <;> exact ⟨rfl, .cons ht hrest⟩

theorem parseMemberName_agree (h : L.Places ts us) :
    L.Agree (L.Reads fun name name' => L.name name.1 name'.1 ∧ name.2 = name'.2)
      (parseMemberName ts) (parseMemberName us) := by
  cases h with
  | nil => exact .error (faults_atPlace .nil rfl)
  | @cons t u rest others ht hrest =>
    rw [parseMemberName_cons, parseMemberName_cons, L.kind_eq ht, L.text_eq ht]
    cases hkind : t.kind with
    | word => exact .ok ⟨⟨L.name_refl _, rfl⟩, hrest⟩
    | number => exact .ok ⟨⟨L.name_refl _, rfl⟩, hrest⟩
    | string => exact .ok ⟨⟨L.name_refl _, rfl⟩, hrest⟩
    | hash =>
      cases hrest with
      | nil => exact .error (faults_expectedAt .nil _)
      | @cons name name' rest others hname hrest =>
        dsimp only
        rw [L.kind_eq hname, L.text_eq hname]
        refine .ite (fun _ => .ok ⟨⟨L.name_refl _, rfl⟩, hrest⟩) fun _ => ?_
        exact .error (faults_expectedAt (.cons hname hrest) _)
    | opening bracket =>
      cases bracket with
      | square =>
        refine (skipGroup_agree ht .square hrest).bind fun after after' _ hafter => ?_
        exact .ok ⟨⟨L.name_capture hkind (.cons ht hrest) hafter, rfl⟩, hafter⟩
      | brace => exact .error (faults_atTerminal ht rfl)
      | paren => exact .error (faults_atTerminal ht rfl)
    | _ => exact .error (faults_atTerminal ht rfl)

theorem skipNameMark_places (h : L.Places ts us) :
    L.Places (skipNameMark ts) (skipNameMark us) := by
  rw [skipNameMark, skipNameMark, startsWith_eq h]
  split
  · exact skipOptional_places h _
  · exact skipOptional_places h _

theorem skipOptionalType_agree (h : L.Places ts us) :
    L.Agree L.Places (skipOptionalType ts) (skipOptionalType us) := by
  cases h with
  | nil => exact .ok .nil
  | cons ht hrest =>
    rw [skipOptionalType, skipOptionalType, L.kind_eq ht]
    exact .ite (fun _ => skipType_agree hrest) fun _ => .ok (.cons ht hrest)

theorem skipBody_agree (h : L.Places ts us) : L.Agree L.Places (skipBody ts) (skipBody us) := by
  cases h with
  | nil => exact .ok .nil
  | cons ht hrest =>
    rw [skipBody, skipBody, L.kind_eq ht]
    refine .ite (fun _ => skipGroup_agree ht .brace hrest) fun _ => ?_
    exact .ok (skipOptional_places (.cons ht hrest) .semicolon)

theorem skipParameters_agree (h : L.Places ts us) :
    L.Agree L.Places (skipParameters ts) (skipParameters us) := by
  cases h with
  | nil => exact .error (faults_atPlace .nil rfl)
  | cons ht hrest =>
    rw [skipParameters, skipParameters, L.kind_eq ht]
    refine .ite (fun _ => skipGroup_agree ht .paren hrest) fun _ => ?_
    exact .error (faults_atTerminal ht rfl)

theorem skipMethod_agree (h : L.Places ts us) :
    L.Agree L.Places (skipMethod ts) (skipMethod us) := by
  refine (skipOptionalAngles_agree h).bind fun _ _ _ hangles => ?_
  refine (skipParameters_agree hangles).bind fun _ _ _ hparameters => ?_
  refine (skipOptionalType_agree hparameters).bind fun _ _ _ htype => ?_
  exact skipBody_agree htype

theorem parsePropertyType_agree (h : L.Places ts us) :
    L.Agree (L.Reads fun type type' => type'.map L.slice = type.map L.slice)
      (parsePropertyType ts) (parsePropertyType us) := by
  cases h with
  | nil => exact .ok ⟨rfl, .nil⟩
  | cons ht hrest =>
    rw [parsePropertyType, parsePropertyType, L.kind_eq ht]
    refine .ite (fun _ => ?_) fun _ => .ok ⟨rfl, .cons ht hrest⟩
    refine (skipType_agree hrest).bind fun after after' _ hafter => .ok ⟨?_, hafter⟩
    simp only [Option.map_some, L.slice_capture hrest hafter]

theorem skipOptionalInitializer_agree (h : L.Places ts us) :
    L.Agree L.Places (skipOptionalInitializer ts) (skipOptionalInitializer us) := by
  cases h with
  | nil => exact .ok .nil
  | cons ht hrest =>
    rw [skipOptionalInitializer, skipOptionalInitializer, L.kind_eq ht]
    exact .ite (fun _ => skipInitializer_agree false hrest) fun _ => .ok (.cons ht hrest)

theorem parseSignature_agree (kind : Member.Kind) (h : L.Places ts us) :
    L.Agree (L.Reads fun found found' =>
        found'.1 = found.1 ∧ found'.2.map L.slice = found.2.map L.slice)
      (parseSignature kind ts) (parseSignature kind us) := by
  rw [parseSignature, parseSignature, startsWith_eq h, startsWith_eq h]
  refine .ite (fun _ => ?_) fun _ => ?_
  · exact (skipMethod_agree h).bind fun after after' _ hafter => .ok ⟨⟨rfl, rfl⟩, hafter⟩
  · refine (parsePropertyType_agree h).bind fun type type' _ htype => ?_
    refine (skipOptionalInitializer_agree htype.2).bind fun after after' _ hafter => ?_
    exact .ok ⟨⟨rfl, htype.1⟩, skipOptional_places hafter .semicolon⟩

theorem staticBlock?_rel (h : L.Places ts us) :
    Option.Rel (fun block block' => L.alike block.1 block'.1 ∧ L.Places block.2 block'.2)
      (staticBlock? ts) (staticBlock? us) := by
  match ts, us, h with
  | [], [], .nil => exact .none
  | [_], [_], .cons _ .nil => exact .none
  | word :: brace :: rest, word' :: brace' :: others, .cons hword (.cons hbrace hrest) =>
    simp only [staticBlock?, isWord_eq hword, L.kind_eq hbrace]
    split
    · exact .some ⟨hbrace, hrest⟩
    · exact .none

theorem parseUndecorated_agree {doc doc' : Option String} (hdoc : L.doc doc doc')
    {decorators decorators' : List Decorator} (hdecorators : L.Decorators decorators decorators')
    (h : L.Places ts us) :
    L.Agree (L.Reads (Option.Rel L.Members)) (parseUndecorated doc decorators ts)
      (parseUndecorated doc' decorators' us) := by
  rw [parseUndecorated, parseUndecorated]
  have hblock := staticBlock?_rel h
  generalize staticBlock? ts = block at hblock
  generalize staticBlock? us = block' at hblock
  cases hblock with
  | some hsome =>
    exact (skipGroup_agree hsome.1 .brace hsome.2).bind fun after after' _ hafter =>
      .ok ⟨.none, hafter⟩
  | none =>
    have hmodifiers := parseModifiers_reads Modifiers.none h
    have hkind := parseMemberKind_reads (skipOptional_places hmodifiers.2 .star)
    dsimp only
    rw [← hmodifiers.1, ← hkind.1]
    refine (parseMemberName_agree hkind.2).bind fun name name' _ hname => ?_
    refine (parseSignature_agree _ (skipNameMark_places hname.2)).bind fun found found' _ hfound => ?_
    refine .ok ⟨.some ⟨hfound.1.1, hname.1.1, ?_, hdecorators, hdoc, hfound.1.2⟩, hfound.2⟩
    dsimp only
    rw [hname.1.2]

theorem parseMember_agree (h : L.Places ts us) (hts : ts ≠ []) :
    L.Agree (L.Reads (Option.Rel L.Members)) (parseMember ts) (parseMember us) := by
  refine (parseDecorators_agree h).bind fun decorators decorators' _ hdecorators => ?_
  refine parseUndecorated_agree ?_ hdecorators.1 hdecorators.2
  cases h with
  | nil => exact absurd rfl hts
  | cons ht hrest => exact L.doc_of_alike ht

/-! ## Classes -/

theorem parseBaseName_reads {ts us : List Terminal} (h : L.Places ts us) :
    L.Reads Eq (parseBaseName ts) (parseBaseName us) := by
  cases h with
  | nil => exact ⟨rfl, .nil⟩
  | @cons name name' rest others hname hrest =>
    rw [parseBaseName_cons, parseBaseName_cons, L.kind_eq hname, L.text_eq hname]
    split
    · cases hrest with
      | nil => exact ⟨rfl, .nil⟩
      | @cons dot dot' rest others hdot hrest =>
        have hbase := parseBaseName_reads hrest
        dsimp only
        rw [L.kind_eq hdot, hbase.1]
        split
        · exact ⟨rfl, hbase.2⟩
        · exact ⟨rfl, .cons hdot hrest⟩
    · exact ⟨rfl, .cons hname hrest⟩
termination_by ts.length

theorem skipComputedBase_agree {ts us : List Terminal} (h : L.Places ts us) :
    L.Agree L.Places (skipComputedBase ts) (skipComputedBase us) := by
  cases h with
  | nil =>
    rw [skipComputedBase]
    exact .ok .nil
  | @cons t u rest others ht hrest =>
    rw [skipComputedBase_cons, skipComputedBase_cons, L.kind_eq ht, isWord_eq ht]
    refine .ite (fun _ => .ok (.cons ht hrest)) fun _ => ?_
    refine (skipItem_agree ht hrest).bind fun after after' hitem hafter => ?_
    have hshorter := skipItem_length_lt hitem
    exact skipComputedBase_agree hafter
termination_by ts.length
decreasing_by exact hshorter

theorem parseBase_agree (h : L.Places ts us) :
    L.Agree (L.Reads Eq) (parseBase ts) (parseBase us) := by
  have hname := parseBaseName_reads h
  have hcomputed : ∀ {after after' : List Terminal}, L.Places after after' →
      L.Agree (L.Reads Eq) (skipComputedBase after >>= fun final => .ok (Heritage.computed, final))
        (skipComputedBase after' >>= fun final => .ok (Heritage.computed, final)) := fun hafter =>
    (skipComputedBase_agree hafter).bind fun _ _ _ hfinal => .ok ⟨rfl, hfinal⟩
  rw [parseBase, parseBase]
  dsimp only
  rw [← hname.1]
  refine (skipOptionalAngles_agree hname.2).bind fun after after' _ hafter => ?_
  cases (parseBaseName ts).1 with
  | none => exact hcomputed hafter
  | some name =>
    dsimp only
    rw [startsWith_eq hafter]
    exact .ite (fun _ => hcomputed hafter) fun _ => .ok ⟨rfl, hafter⟩

theorem parseHeritage_agree (h : L.Places ts us) :
    L.Agree (L.Reads Eq) (parseHeritage ts) (parseHeritage us) := by
  cases h with
  | nil => exact .ok ⟨rfl, .nil⟩
  | cons ht hrest =>
    rw [parseHeritage, parseHeritage, isWord_eq ht]
    exact .ite (fun _ => parseBase_agree hrest) fun _ => .ok ⟨rfl, .cons ht hrest⟩

theorem parseClassName_reads (h : L.Places ts us) :
    L.Reads Eq (parseClassName ts) (parseClassName us) := by
  cases h with
  | nil => exact ⟨rfl, .nil⟩
  | cons ht hrest =>
    rw [parseClassName, parseClassName, L.kind_eq ht, L.text_eq ht]
    split
    · exact ⟨rfl, hrest⟩
    · exact ⟨rfl, .cons ht hrest⟩

theorem parseHeader_agree (h : L.Places ts us) :
    L.Agree (L.Reads Eq) (parseHeader ts) (parseHeader us) := by
  have hname := parseClassName_reads h
  rw [parseHeader, parseHeader]
  dsimp only
  rw [← hname.1]
  refine (skipOptionalAngles_agree hname.2).bind fun _ _ _ hangles => ?_
  refine (parseHeritage_agree hangles).bind fun found found' _ hfound => ?_
  exact .ok ⟨by rw [hfound.1], hfound.2⟩

theorem skipToBody_agree {ts us : List Terminal} (h : L.Places ts us) :
    L.Agree L.Places (skipToBody ts) (skipToBody us) := by
  cases h with
  | nil =>
    rw [skipToBody]
    exact .ok .nil
  | @cons t u rest others ht hrest =>
    rw [skipToBody_cons, skipToBody_cons, L.kind_eq ht]
    refine .ite (fun _ => .ok (.cons ht hrest)) fun _ => ?_
    refine .ite (fun _ => ?_) fun _ => skipToBody_agree hrest
    refine (skipAngles_agree ht hrest).bind fun after after' hangles hafter => ?_
    have hle := (skipAngles_suffix hangles).length_le
    exact skipToBody_agree hafter
termination_by ts.length
decreasing_by
  · exact Nat.lt_succ_of_le hle
  · exact Nat.lt_succ_self _

theorem skipInterfaces_agree (h : L.Places ts us) :
    L.Agree L.Places (skipInterfaces ts) (skipInterfaces us) := by
  rw [skipInterfaces, skipInterfaces, startsWithWord_eq h]
  exact .ite (fun _ => skipToBody_agree h) fun _ => .ok h

theorem forall₂_toList {α : Type} {R : α → α → Prop} {x y : Option α} (h : Option.Rel R x y) :
    List.Forall₂ R x.toList y.toList := by
  cases h with
  | none => exact .nil
  | some hvalue => exact .cons hvalue .nil

theorem parseMembers_agree {opener opener' : Terminal} (hopener : L.alike opener opener')
    {ts us : List Terminal} (h : L.Places ts us) :
    L.Agree (L.Reads (List.Forall₂ L.Members)) (parseMembers opener ts)
      (parseMembers opener' us) := by
  cases h with
  | nil =>
    rw [parseMembers, parseMembers]
    exact .error (faults_atTerminal hopener rfl)
  | @cons t u rest others ht hrest =>
    rw [parseMembers_cons, parseMembers_cons, L.kind_eq ht]
    refine .ite (fun _ => parseMembers_agree hopener hrest) fun _ => ?_
    refine .ite (fun _ => .ok ⟨.nil, hrest⟩) fun _ => ?_
    refine (parseMember_agree (.cons ht hrest) (List.cons_ne_nil t rest)).bind
      fun member member' hparse hmember => ?_
    have hshorter := (parseMember_suffix hparse).2
    refine (parseMembers_agree hopener hmember.2).bind fun found found' _ hfound => ?_
    exact .ok ⟨List.rel_append (forall₂_toList hmember.1) hfound.1, hfound.2⟩
termination_by ts.length
decreasing_by
  all_goals first
    | exact hshorter
    | exact Nat.lt_succ_self _

theorem parseBody_agree (h : L.Places ts us) :
    L.Agree (L.Reads (List.Forall₂ L.Members)) (parseBody ts) (parseBody us) := by
  refine (skipInterfaces_agree h).bind fun atBody atBody' _ hbody => ?_
  cases hbody with
  | nil => exact .error (faults_expectedAt .nil _)
  | cons ht hrest =>
    dsimp only
    rw [L.kind_eq ht]
    refine .ite (fun _ => parseMembers_agree ht hrest) fun _ => ?_
    exact .error (faults_expectedAt (.cons ht hrest) _)

theorem value_parseClass_agree {line line' : Nat} (hline : L.line line line')
    {doc doc' : Option String} (hdoc : L.doc doc doc') {decorators decorators' : List Decorator}
    (hdecorators : L.Decorators decorators decorators') (h : L.Places ts us) :
    L.Agree (L.Reads (Option.Rel L.Classes)) (parseClass line doc decorators ts).value
      (parseClass line' doc' decorators' us).value := by
  rw [value_parseClass, value_parseClass]
  refine (parseHeader_agree h).bind fun (header, after) (header', after') _ hheader => ?_
  obtain ⟨rfl, hafter⟩ : header = header' ∧ L.Places after after' := hheader
  refine (parseBody_agree hafter).bind fun body body' _ hbody => ?_
  refine .ok ⟨?_, hbody.2⟩
  dsimp only
  cases header.1 with
  | none => exact .none
  | some name => exact .some ⟨rfl, hline, hdoc, hdecorators, rfl, hbody.1⟩

/-! ## Files -/

theorem skipExportWords_places (h : L.Places ts us) :
    L.Places (skipExportWords ts) (skipExportWords us) := by
  induction h with
  | nil => exact .nil
  | cons ht hrest ih =>
    rw [skipExportWords, skipExportWords]
    simp only [isWord_eq ht, startsWith_eq hrest]
    split
    · exact ih
    · split
      · exact ih
      · exact .cons ht hrest

theorem parsePreamble_agree (h : L.Places ts us) :
    L.Agree (L.Reads L.Decorators) (parsePreamble ts) (parsePreamble us) := by
  refine (parseDecorators_agree h).bind fun before before' _ hbefore => ?_
  refine (parseDecorators_agree (skipExportWords_places hbefore.2)).bind
    fun behind behind' _ hbehind => ?_
  exact .ok ⟨Decorators.append hbefore.1 hbehind.1, hbehind.2⟩

theorem beginsStatement_eq {t u : Terminal} (h : L.alike t u) :
    u.beginsStatement = t.beginsStatement := by
  simp only [beginsStatement, L.kind_eq h, L.text_eq h, L.newlineBefore_eq h]

theorem atLineEnd_eq (h : L.Places ts us) : atLineEnd us = atLineEnd ts := by
  cases h with
  | nil => rfl
  | cons ht hrest => exact L.newlineBefore_eq ht

theorem skipStatement_agree (started : Bool) {ts us : List Terminal} (h : L.Places ts us) :
    L.Agree L.Places (skipStatement started ts) (skipStatement started us) := by
  cases h with
  | nil =>
    rw [skipStatement]
    exact .ok .nil
  | @cons t u rest others ht hrest =>
    rw [skipStatement_cons, skipStatement_cons, L.kind_eq ht, L.text_eq ht, beginsStatement_eq ht]
    refine .ite (fun _ => .ok (.cons ht hrest)) fun _ => ?_
    refine .ite (fun _ => .ok hrest) fun _ => ?_
    refine .ite (fun _ => .error (faults_atTerminal ht rfl)) fun _ => ?_
    refine (skipItem_agree ht hrest).bind fun after after' hitem hafter => ?_
    have hshorter := skipItem_length_lt hitem
    rw [atLineEnd_eq hafter]
    exact .ite (fun _ => .ok hafter) fun _ => skipStatement_agree true hafter
termination_by ts.length
decreasing_by exact hshorter

theorem value_parseClassOrStatement_agree {start start' : Terminal}
    (hstart : L.alike start start') {decorators decorators' : List Decorator}
    (hdecorators : L.Decorators decorators decorators') (h : L.Places ts us) :
    L.Agree (L.Reads (Option.Rel L.Classes)) (parseClassOrStatement start decorators ts).value
      (parseClassOrStatement start' decorators' us).value := by
  cases h with
  | nil => exact .ok ⟨.none, .nil⟩
  | @cons t u rest others ht hrest =>
    rw [parseClassOrStatement, parseClassOrStatement, isWord_eq ht]
    by_cases hclass : t.isWord "class" = true
    · rw [if_pos hclass, if_pos hclass]
      exact value_parseClass_agree (L.line_of_alike hstart) (L.doc_of_alike hstart) hdecorators hrest
    · rw [if_neg hclass, if_neg hclass]
      exact (skipStatement_agree false (.cons ht hrest)).map fun _ _ hafter => ⟨.none, hafter⟩

theorem value_parseDeclaration_agree {start start' : Terminal} (hstart : L.alike start start')
    (h : L.Places ts us) :
    L.Agree (L.Reads (Option.Rel L.Classes)) (parseDeclaration start ts).value
      (parseDeclaration start' us).value := by
  rw [value_parseDeclaration, value_parseDeclaration]
  refine (parsePreamble_agree (.cons hstart h)).bind fun preamble preamble' _ hpreamble => ?_
  exact value_parseClassOrStatement_agree hstart hpreamble.1 hpreamble.2

/-- Two files that look alike declare the same classes, up to the likeness, or both have a fault
with the same cause. -/
theorem value_parseDeclarations_agree {ts us : List Terminal} (h : L.Places ts us) :
    L.Agree (List.Forall₂ L.Classes) (parseDeclarations ts).value (parseDeclarations us).value := by
  cases h with
  | nil =>
    rw [parseDeclarations]
    exact .ok .nil
  | @cons t u rest others ht hrest =>
    rw [value_parseDeclarations_cons, value_parseDeclarations_cons]
    refine (value_parseDeclaration_agree ht hrest).bind fun first first' hparse hfirst => ?_
    have hshorter := parseDeclaration_length_lt hparse
    refine (value_parseDeclarations_agree hfirst.2).map fun found found' hfound => ?_
    exact List.rel_append (forall₂_toList hfirst.1) hfound
termination_by ts.length
decreasing_by exact hshorter

end Declaration

end ComponentDocs
