import ComponentDocs.Proofs.Declaration.Level

/-!
# Parsers close what they open: types, members and declarations

The lemmas on `SameLevel` and `Closes` for the parsers from decorators up to the preamble of a
declaration and the body of a class.
-/

namespace ComponentDocs.Declaration

open Terminal

variable {ts after : List Terminal}

/-! ## Decorators -/

theorem parseDecoratorName_level {name : String} (h : parseDecoratorName ts = .ok (name, after)) :
    SameLevel ts after := by
  fun_induction parseDecoratorName ts with
  | case1 => cases h
  | case2 first hword =>
    cases h
    exact .cons (by rw [hword]; rfl) (.refl _)
  | case3 first hword dot rest hdot ih =>
    exact .cons (by rw [hword]; rfl) (.cons (by rw [hdot]; rfl) (ih h))
  | case4 first hword =>
    cases h
    exact .cons (by rw [hword]; rfl) (.refl _)
  | case5 => cases h

theorem parseOptionalArguments_level {arguments : List Expr}
    (h : parseOptionalArguments ts = .ok (arguments, after)) : SameLevel ts after := by
  unfold parseOptionalArguments at h
  split at h
  · cases h; exact .refl _
  · split at h
    · rename_i hopening
      rw [parseArguments_eq] at h
      exact (parseItems_closes h).level hopening
    · cases h; exact .refl _

theorem parseDecorator_level {sign : Terminal} {decorator : Decorator}
    (h : parseDecorator sign ts = .ok (decorator, after)) : SameLevel ts after := by
  obtain ⟨⟨name, afterName⟩, hname, h⟩ := bind_eq_ok_iff.1 h
  obtain ⟨⟨arguments, final⟩, harguments, h⟩ := bind_eq_ok_iff.1 h
  cases h
  exact (parseDecoratorName_level hname).trans (parseOptionalArguments_level harguments)

theorem parseDecorators_level {decorators : List Decorator}
    (h : parseDecorators ts = .ok (decorators, after)) : SameLevel ts after := by
  fun_induction parseDecorators ts generalizing decorators with
  | case1 => cases h; exact .refl _
  | case2 => cases h
  | case3 => cases h
  | case4 t rest hsign decorator next hdecorator others final hothers ih =>
    cases h
    exact .cons (by rw [hsign]; rfl) ((parseDecorator_level hdecorator).trans (ih hothers))
  | case5 => cases h; exact .refl _

/-! ## Types -/

theorem skipQualifiers_level (h : skipQualifiers ts = .ok after) : SameLevel ts after := by
  fun_induction skipQualifiers ts with
  | case1 => cases h; exact .refl _
  | case2 => cases h
  | case3 dot hdot name rest hword ih =>
    exact .cons (by rw [hdot]; rfl) (.cons (by rw [hword]; rfl) (ih h))
  | case4 => cases h
  | case5 => cases h; exact .refl _

theorem skipOptionalAngles_level (h : skipOptionalAngles ts = .ok after) : SameLevel ts after := by
  unfold skipOptionalAngles at h
  split at h
  · cases h; exact .refl _
  · split at h
    · rename_i hless
      exact .cons (by rw [hless]; rfl) (skipAngles_level h)
    · cases h; exact .refl _

theorem skipOptionalGroup_level {bracket : Bracket} (h : skipOptionalGroup bracket ts = .ok after) :
    SameLevel ts after := by
  unfold skipOptionalGroup at h
  split at h
  · cases h; exact .refl _
  · split at h
    · rename_i hopening
      exact (skipGroup_closes h).level hopening
    · cases h; exact .refl _

theorem skipTypeName_level (h : skipTypeName ts = .ok after) : SameLevel ts after := by
  obtain ⟨middle, hnames, h⟩ := bind_eq_ok_iff.1 h
  exact (skipQualifiers_level hnames).trans (skipOptionalAngles_level h)

theorem skipTypePart_level (h : skipTypePart ts = .ok after) : SameLevel ts after := by
  fun_induction skipTypePart ts with
  | case1 => cases h
  | case2 t rest bracket hopening => exact (skipGroup_closes h).level hopening
  | case3 t rest hless =>
    obtain ⟨middle, hangles, h⟩ := bind_eq_ok_iff.1 h
    exact .cons (by rw [hless]; rfl) ((skipAngles_level hangles).trans (skipOptionalGroup_level h))
  | case4 t rest hword hoperator ih => exact .cons (by rw [hword]; rfl) (ih h)
  | case5 => cases h
  | case6 t rest hword hoperator hname =>
    cases h
    exact .cons (by rw [hword]; rfl) (skipTypeName_level hname)
  | case7 t rest hword hoperator word middle hname his ih =>
    have hrest : SameLevel (word :: middle) after := .cons (isBracket_of_isWord his) (ih h)
    exact .cons (by rw [hword]; rfl) ((skipTypeName_level hname).trans hrest)
  | case8 t rest hword hoperator word middle hname =>
    cases h
    exact .cons (by rw [hword]; rfl) (skipTypeName_level hname)
  | case9 t rest hkind => cases h; exact .cons (by rw [hkind]; rfl) (.refl _)
  | case10 t rest hkind => cases h; exact .cons (by rw [hkind]; rfl) (.refl _)
  | case11 t rest hkind => cases h; exact .cons (by rw [hkind]; rfl) (.refl _)
  | case12 t rest hkind hminus ih => exact .cons (by rw [hkind]; rfl) (ih h)
  | case13 => cases h
  | case14 => cases h

theorem skipIndexes_level (h : skipIndexes ts = .ok after) : SameLevel ts after := by
  fun_induction skipIndexes ts with
  | case1 => cases h; exact .refl _
  | case2 => cases h
  | case3 t rest hindex next hgroup ih =>
    exact ((skipGroup_closes hgroup).level hindex.1).trans (ih h)
  | case4 => cases h; exact .refl _

theorem isBracket_of_isTypeJoin {t : Terminal} (h : t.isTypeJoin = true) :
    t.kind.isBracket = false := by
  rw [isTypeJoin, Bool.or_eq_true_iff, Bool.or_eq_true_iff] at h
  rcases h with (hbar | hand) | harrow
  · exact isBracket_of_isOperator hbar
  · exact isBracket_of_isOperator hand
  · rw [beq_iff_eq.1 harrow]
    rfl

theorem skipTypeParts_level (h : skipTypeParts ts = .ok after) : SameLevel ts after := by
  fun_induction skipTypeParts ts with
  | case1 => cases h
  | case2 => cases h
  | case3 ts part hpart hindexes =>
    cases h
    exact (skipTypePart_level hpart).trans (skipIndexes_level hindexes)
  | case4 ts part hpart t rest hindexes hjoin ih =>
    have hrest : SameLevel (t :: rest) after := .cons (isBracket_of_isTypeJoin hjoin) (ih h)
    exact ((skipTypePart_level hpart).trans (skipIndexes_level hindexes)).trans hrest
  | case5 ts part hpart t rest hindexes =>
    cases h
    exact (skipTypePart_level hpart).trans (skipIndexes_level hindexes)

theorem skipType_level (h : skipType ts = .ok after) : SameLevel ts after := by
  unfold skipType at h
  split at h
  · exact skipTypeParts_level h
  · split at h
    · rename_i hfirst
      refine .cons ?_ (skipTypeParts_level h)
      rcases Bool.or_eq_true_iff.1 hfirst with hbar | hand
      · exact isBracket_of_isOperator hbar
      · exact isBracket_of_isOperator hand
    · exact skipTypeParts_level h

/-! ## Members -/

theorem parseModifiers_level (modifiers : Modifiers) (ts : List Terminal) :
    SameLevel ts (parseModifiers modifiers ts).2 := by
  fun_induction parseModifiers modifiers ts with
  | case1 => exact .refl _
  | case2 modifiers t rest hmodifier ih =>
    refine .cons ?_ ih
    have hword := (Bool.and_eq_true_iff.1 (Bool.and_eq_true_iff.1 hmodifier).1).1
    rw [beq_iff_eq.1 hword]
    rfl
  | case3 => exact .refl _

theorem parseMemberKind_level (ts : List Terminal) : SameLevel ts (parseMemberKind ts).2 := by
  unfold parseMemberKind
  split
  · exact .refl _
  · split
    · rename_i haccessor
      refine .cons ?_ (.refl _)
      rcases Bool.or_eq_true_iff.1 (Bool.and_eq_true_iff.1 haccessor).1 with hget | hset
      · exact isBracket_of_isWord hget
      · exact isBracket_of_isWord hset
    · split
      · exact .refl _
      · split <;> exact .refl _

theorem parseMemberName_level {name : String × Bool}
    (h : parseMemberName ts = .ok (name, after)) : SameLevel ts after := by
  cases ts with
  | nil => cases h
  | cons t rest =>
    rw [parseMemberName_cons] at h
    split at h
    · rename_i hkind
      cases h
      exact .cons (by rw [hkind]; rfl) (.refl _)
    · rename_i hkind
      cases h
      exact .cons (by rw [hkind]; rfl) (.refl _)
    · rename_i hkind
      cases h
      exact .cons (by rw [hkind]; rfl) (.refl _)
    · rename_i hkind
      refine .cons (by rw [hkind]; rfl) ?_
      split at h
      · cases h
      · split at h
        · rename_i hword
          cases h
          exact .cons (by rw [hword]; rfl) (.refl _)
        · cases h
    · rename_i hopening
      obtain ⟨final, hgroup, h⟩ := bind_eq_ok_iff.1 h
      cases h
      exact (skipGroup_closes hgroup).level hopening
    · cases h

theorem skipNameMark_level (ts : List Terminal) : SameLevel ts (skipNameMark ts) := by
  unfold skipNameMark
  split
  · exact skipOptional_level rfl ts
  · exact skipOptional_level rfl ts

theorem skipOptionalType_level (h : skipOptionalType ts = .ok after) : SameLevel ts after := by
  unfold skipOptionalType at h
  split at h
  · cases h; exact .refl _
  · split at h
    · rename_i hcolon
      exact .cons (by rw [hcolon]; rfl) (skipType_level h)
    · cases h; exact .refl _

theorem skipBody_level (h : skipBody ts = .ok after) : SameLevel ts after := by
  unfold skipBody at h
  split at h
  · cases h; exact .refl _
  · split at h
    · rename_i hopening
      exact (skipGroup_closes h).level hopening
    · cases h
      exact skipOptional_level rfl _

theorem skipParameters_level (h : skipParameters ts = .ok after) : SameLevel ts after := by
  unfold skipParameters at h
  split at h
  · cases h
  · split at h
    · rename_i hopening
      exact (skipGroup_closes h).level hopening
    · cases h

theorem skipMethod_level (h : skipMethod ts = .ok after) : SameLevel ts after := by
  obtain ⟨afterAngles, hangles, h⟩ := bind_eq_ok_iff.1 h
  obtain ⟨afterParameters, hparameters, h⟩ := bind_eq_ok_iff.1 h
  obtain ⟨afterType, htype, h⟩ := bind_eq_ok_iff.1 h
  exact (((skipOptionalAngles_level hangles).trans (skipParameters_level hparameters)).trans
    (skipOptionalType_level htype)).trans (skipBody_level h)

theorem parsePropertyType_level {type : Option String}
    (h : parsePropertyType ts = .ok (type, after)) : SameLevel ts after := by
  unfold parsePropertyType at h
  split at h
  · cases h; exact .refl _
  · split at h
    · rename_i hcolon
      obtain ⟨final, htype, h⟩ := bind_eq_ok_iff.1 h
      cases h
      exact .cons (by rw [hcolon]; rfl) (skipType_level htype)
    · cases h; exact .refl _

theorem skipOptionalInitializer_level (h : skipOptionalInitializer ts = .ok after) :
    SameLevel ts after := by
  unfold skipOptionalInitializer at h
  split at h
  · cases h; exact .refl _
  · split at h
    · rename_i hequals
      exact .cons (by rw [hequals]; rfl) (skipInitializer_level h)
    · cases h; exact .refl _

theorem parseSignature_level {kind : Member.Kind} {signature : Member.Kind × Option String}
    (h : parseSignature kind ts = .ok (signature, after)) : SameLevel ts after := by
  unfold parseSignature at h
  split at h
  · obtain ⟨final, hmethod, h⟩ := bind_eq_ok_iff.1 h
    cases h
    exact skipMethod_level hmethod
  · obtain ⟨⟨type, afterType⟩, htype, h⟩ := bind_eq_ok_iff.1 h
    obtain ⟨final, hinitializer, h⟩ := bind_eq_ok_iff.1 h
    cases h
    exact ((parsePropertyType_level htype).trans (skipOptionalInitializer_level hinitializer)).trans
      (skipOptional_level rfl final)

theorem staticBlock?_level {rest : List Terminal} {brace : Terminal}
    (h : staticBlock? ts = some (brace, rest)) (hgroup : skipGroup brace .brace rest = .ok after) :
    SameLevel ts after := by
  unfold staticBlock? at h
  split at h
  · split at h
    · rename_i hstatic
      cases h
      obtain ⟨hword, hopening⟩ := Bool.and_eq_true_iff.1 hstatic
      exact .cons (isBracket_of_isWord hword)
        ((skipGroup_closes hgroup).level (beq_iff_eq.1 hopening))
    · cases h
  · cases h

theorem parseUndecorated_level {doc : Option String} {decorators : List Decorator}
    {member : Option Member} (h : parseUndecorated doc decorators ts = .ok (member, after)) :
    SameLevel ts after := by
  unfold parseUndecorated at h
  split at h
  · rename_i brace rest hblock
    obtain ⟨final, hgroup, h⟩ := bind_eq_ok_iff.1 h
    cases h
    exact staticBlock?_level hblock hgroup
  · obtain ⟨⟨⟨name, isPrivateName⟩, afterName⟩, hname, h⟩ := bind_eq_ok_iff.1 h
    obtain ⟨⟨⟨kind, type⟩, final⟩, hsignature, h⟩ := bind_eq_ok_iff.1 h
    cases h
    have hbefore := ((parseModifiers_level .none ts).trans (skipOptional_level rfl _)).trans
      (parseMemberKind_level (skipOptional .star (parseModifiers .none ts).2))
    exact ((hbefore.trans (parseMemberName_level hname)).trans (skipNameMark_level afterName)).trans
      (parseSignature_level hsignature)

theorem parseMember_level {member : Option Member} (h : parseMember ts = .ok (member, after)) :
    SameLevel ts after := by
  obtain ⟨⟨decorators, afterDecorators⟩, hdecorators, h⟩ := bind_eq_ok_iff.1 h
  exact (parseDecorators_level hdecorators).trans (parseUndecorated_level h)

/-! ## Classes and declarations -/

theorem parseMembers_closes {opener : Terminal} {members : List Member}
    (h : parseMembers opener ts = .ok (members, after)) : Closes .brace ts after := by
  fun_induction parseMembers opener ts generalizing members with
  | case1 => cases h
  | case2 t rest hsemicolon ih => exact .cons (by rw [hsemicolon]; rfl) (ih h)
  | case3 t rest hsemicolon hclosing =>
    cases h
    exact .here hclosing
  | case4 => cases h
  | case5 => cases h
  | case6 t rest hsemicolon hclosing member next hmember others final hothers ih =>
    cases h
    exact (parseMember_level hmember).closes (ih hothers)

theorem skipExportWords_level (ts : List Terminal) : SameLevel ts (skipExportWords ts) := by
  fun_induction skipExportWords ts with
  | case1 => exact .refl _
  | case2 t rest hword ih =>
    refine .cons ?_ ih
    rcases Bool.or_eq_true_iff.1 hword with hexport | hdefault
    · exact isBracket_of_isWord hexport
    · exact isBracket_of_isWord hdefault
  | case3 t rest _ hword ih =>
    refine .cons ?_ ih
    rcases Bool.or_eq_true_iff.1 (Bool.and_eq_true_iff.1 hword).1 with hdeclare | habstract
    · exact isBracket_of_isWord hdeclare
    · exact isBracket_of_isWord habstract
  | case4 => exact .refl _

theorem parsePreamble_level {decorators : List Decorator}
    (h : parsePreamble ts = .ok (decorators, after)) : SameLevel ts after := by
  obtain ⟨⟨before, afterBefore⟩, hbefore, h⟩ := bind_eq_ok_iff.1 h
  obtain ⟨⟨behind, final⟩, hbehind, h⟩ := bind_eq_ok_iff.1 h
  cases h
  exact ((parseDecorators_level hbefore).trans (skipExportWords_level afterBefore)).trans
    (parseDecorators_level hbehind)

end ComponentDocs.Declaration
