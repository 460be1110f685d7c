import ComponentDocs.Proofs.Declaration.Boundary
import ComponentDocs.Proofs.Declaration.Terminal
import ComponentDocs.Proofs.Token.Edge

/-!
# First and last terminals of decorators and types

A decorator and a type end with a solid terminal, and a type does not begin with a slash.  Of the
terminal they begin with only its kind and its text matter, not what stands before it.
-/

namespace ComponentDocs.Declaration

open Terminal

variable {ts after : List Terminal}

/-- A solid terminal stands directly before `after`. -/
def SolidBefore (after ts : List Terminal) : Prop :=
  ∃ last, last.kind.isSolid = true ∧ last :: after <:+ ts

theorem SolidBefore.of_suffix {us : List Terminal} (h : SolidBefore after us)
    (hsuffix : us <:+ ts) : SolidBefore after ts := by
  obtain ⟨last, hlast, hbefore⟩ := h
  exact ⟨last, hlast, hbefore.trans hsuffix⟩

theorem SolidBefore.cons (h : SolidBefore after ts) (t : Terminal) : SolidBefore after (t :: ts) :=
  h.of_suffix (List.suffix_cons t ts)

/-! ## Ends -/

theorem parseDecorator_solid {sign : Terminal} {decorator : Decorator}
    (h : parseDecorator sign ts = .ok (decorator, after)) : SolidBefore after ts := by
  obtain ⟨last, hlast, hsuffix⟩ := parseDecorator_last h
  refine ⟨last, ?_, hsuffix⟩
  rcases hlast with hkind | hkind <;> rw [hkind] <;> rfl

theorem skipGroup_solid {opener : Terminal} {bracket : Bracket}
    (h : skipGroup opener bracket ts = .ok after) : SolidBefore after ts := by
  obtain ⟨closer, hkind, hsuffix⟩ := skipGroup_closer h
  exact ⟨closer, by rw [hkind]; rfl, hsuffix⟩

theorem closeAngles_solid {opener : Terminal} {depth : Nat}
    (h : closeAngles opener (depth + 1) ts = .ok after) : SolidBefore after ts := by
  generalize hdepth : depth + 1 = opened at h
  fun_induction closeAngles opener opened ts generalizing depth with
  | case1 => cases hdepth
  | case2 => cases h
  | case3 opened t ts hless ih => exact (ih rfl h).cons t
  | case4 opened t ts hless hgreater ih =>
    cases opened with
    | zero =>
      rw [closeAngles] at h
      cases h
      exact ⟨t, by rw [hgreater]; rfl, List.suffix_rfl⟩
    | succ opened => exact (ih rfl h).cons t
  | case5 => cases h
  | case6 => cases h
  | case7 opened t ts _ _ _ next hitem ih =>
    exact ((ih rfl h).of_suffix (skipItem_suffix hitem)).cons t

theorem skipAngles_solid {opener : Terminal} (h : skipAngles opener ts = .ok after) :
    SolidBefore after ts :=
  closeAngles_solid h

/-- Behind a solid terminal `t` qualifiers end with a name. -/
theorem skipQualifiers_solid {t : Terminal} (ht : t.kind.isSolid = true)
    (h : skipQualifiers ts = .ok after) : SolidBefore after (t :: ts) := by
  fun_induction skipQualifiers ts generalizing t with
  | case1 =>
    cases h
    exact ⟨t, ht, List.suffix_rfl⟩
  | case2 => cases h
  | case3 dot hdot name ts hname ih => exact ((ih (by rw [hname]; rfl) h).cons dot).cons t
  | case4 => cases h
  | case5 =>
    cases h
    exact ⟨t, ht, List.suffix_rfl⟩

theorem skipOptionalAngles_solid (h : skipOptionalAngles ts = .ok after) :
    after = ts ∨ SolidBefore after ts := by
  unfold skipOptionalAngles at h
  split at h
  · cases h
    exact .inl rfl
  · rename_i t rest
    split at h
    · exact .inr ((skipAngles_solid h).cons t)
    · cases h
      exact .inl rfl

theorem skipOptionalGroup_solid {bracket : Bracket} (h : skipOptionalGroup bracket ts = .ok after) :
    after = ts ∨ SolidBefore after ts := by
  unfold skipOptionalGroup at h
  split at h
  · cases h
    exact .inl rfl
  · rename_i t rest
    split at h
    · exact .inr ((skipGroup_solid h).cons t)
    · cases h
      exact .inl rfl

theorem skipTypeName_solid {t : Terminal} (ht : t.kind.isSolid = true)
    (h : skipTypeName ts = .ok after) : SolidBefore after (t :: ts) := by
  obtain ⟨middle, hnames, h⟩ := bind_eq_ok_iff.1 h
  rcases skipOptionalAngles_solid h with rfl | hsolid
  · exact skipQualifiers_solid ht hnames
  · exact (hsolid.of_suffix (skipQualifiers_suffix hnames)).cons t

theorem skipTypePart_solid (h : skipTypePart ts = .ok after) : SolidBefore after ts := by
  fun_induction skipTypePart ts with
  | case1 => cases h
  | case2 t ts => exact (skipGroup_solid h).cons t
  | case3 t ts =>
    obtain ⟨middle, hangles, h⟩ := bind_eq_ok_iff.1 h
    rcases skipOptionalGroup_solid h with rfl | hsolid
    · exact (skipAngles_solid hangles).cons t
    · exact (hsolid.of_suffix (skipAngles_suffix hangles)).cons t
  | case4 t ts _ _ ih => exact (ih h).cons t
  | case5 => cases h
  | case6 t ts hkind _ hname =>
    cases h
    exact skipTypeName_solid (by rw [hkind]; rfl) hname
  | case7 t ts _ _ word middle hname _ ih =>
    exact (((ih h).cons word).of_suffix (skipTypeName_suffix hname)).cons t
  | case8 t ts hkind _ word middle hname =>
    cases h
    exact skipTypeName_solid (by rw [hkind]; rfl) hname
  | case9 t ts hkind | case10 t ts hkind | case11 t ts hkind =>
    cases h
    exact ⟨t, by rw [hkind]; rfl, List.suffix_rfl⟩
  | case12 t ts _ _ ih => exact (ih h).cons t
  | case13 => cases h
  | case14 => cases h

theorem skipIndexes_solid (h : skipIndexes ts = .ok after) : after = ts ∨ SolidBefore after ts := by
  fun_induction skipIndexes ts with
  | case1 =>
    cases h
    exact .inl rfl
  | case2 => cases h
  | case3 t ts _ next hgroup ih =>
    rcases ih h with rfl | hsolid
    · exact .inr ((skipGroup_solid hgroup).cons t)
    · exact .inr ((hsolid.of_suffix (skipGroup_suffix hgroup)).cons t)
  | case4 =>
    cases h
    exact .inl rfl

theorem skipTypeParts_solid (h : skipTypeParts ts = .ok after) : SolidBefore after ts := by
  have hend : ∀ {ts part after : List Terminal}, skipTypePart ts = .ok part →
      skipIndexes part = .ok after → SolidBefore after ts := by
    intro ts part after hpart hindexes
    rcases skipIndexes_solid hindexes with rfl | hsolid
    · exact skipTypePart_solid hpart
    · exact hsolid.of_suffix (skipTypePart_suffix hpart)
  fun_induction skipTypeParts ts with
  | case1 => cases h
  | case2 => cases h
  | case3 ts part hpart hindexes =>
    cases h
    exact hend hpart hindexes
  | case4 ts part hpart t rest hindexes _ ih =>
    exact (((ih h).cons t).of_suffix (skipIndexes_suffix hindexes)).of_suffix
      (skipTypePart_suffix hpart)
  | case5 ts part hpart t rest hindexes =>
    cases h
    exact hend hpart hindexes

theorem skipType_solid (h : skipType ts = .ok after) : SolidBefore after ts := by
  unfold skipType at h
  split at h
  · exact skipTypeParts_solid h
  · rename_i t rest
    split at h
    · exact (skipTypeParts_solid h).cons t
    · exact skipTypeParts_solid h

/-! ## Beginnings -/

variable {t u : Terminal}

/-- Of the at sign of a decorator only the text matters. -/
theorem parseDecorator_head (htext : u.text = t.text) (ts : List Terminal) :
    parseDecorator u ts = parseDecorator t ts := by
  rw [parseDecorator, parseDecorator]
  cases hname : parseDecoratorName ts with
  | error fault => rfl
  | ok found =>
    obtain ⟨name, afterName⟩ := found
    dsimp only [ok_bind]
    cases harguments : parseOptionalArguments afterName with
    | error fault => rfl
    | ok found =>
      obtain ⟨arguments, after⟩ := found
      dsimp only [ok_bind]
      rw [capture_head htext ((parseOptionalArguments_suffix harguments).trans
        (parseDecoratorName_suffix hname))]

theorem skipTypePart_head (hkind : u.kind = t.kind) (htext : u.text = t.text)
    (h : skipTypePart (t :: ts) = .ok after) : skipTypePart (u :: ts) = .ok after := by
  rw [skipTypePart_cons] at h ⊢
  rw [hkind, htext]
  generalize t.kind = kind at h ⊢
  cases kind with
  | opening bracket => exact skipGroup_opener h u
  | less =>
    obtain ⟨middle, hangles, h⟩ := bind_eq_ok_iff.1 h
    dsimp only
    rw [skipAngles_opener hangles u, ok_bind]
    exact h
  | word | string | number | template => exact h
  | operator =>
    dsimp only at h ⊢
    split
    · rename_i hminus
      rwa [if_pos hminus] at h
    · rename_i hminus
      rw [if_neg hminus] at h
      cases h
  | _ => cases h

theorem skipTypeParts_head (hkind : u.kind = t.kind) (htext : u.text = t.text)
    (h : skipTypeParts (t :: ts) = .ok after) : skipTypeParts (u :: ts) = .ok after := by
  rw [skipTypeParts_eq] at h ⊢
  obtain ⟨part, hpart, h⟩ := bind_eq_ok_iff.1 h
  rw [skipTypePart_head hkind htext hpart, ok_bind]
  exact h

/-- Of the first terminal of a type only the kind and the text matter. -/
theorem skipType_head (hkind : u.kind = t.kind) (htext : u.text = t.text)
    (h : skipType (t :: ts) = .ok after) : skipType (u :: ts) = .ok after := by
  have hjoin : ∀ text, u.isOperator text = t.isOperator text := by
    intro text
    rw [isOperator, isOperator, hkind, htext]
  rw [skipType] at h ⊢
  rw [hjoin, hjoin]
  split
  · rename_i hjoin
    rwa [if_pos hjoin] at h
  · rename_i hjoin
    rw [if_neg hjoin] at h
    exact skipTypeParts_head hkind htext h

/-- A type does not begin with a slash. -/
theorem isSlashed_of_skipType (h : skipType (t :: ts) = .ok after) : t.kind.isSlashed = false := by
  rw [skipType] at h
  split at h
  · rename_i hjoin
    have hkind : t.kind = .operator := by
      simp only [isOperator, Bool.or_eq_true, Bool.and_eq_true, beq_iff_eq] at hjoin
      exact hjoin.elim And.left And.left
    rw [hkind]
    rfl
  · rw [skipTypeParts_eq] at h
    obtain ⟨part, hpart, -⟩ := bind_eq_ok_iff.1 h
    rw [skipTypePart_cons] at hpart
    generalize t.kind = kind at hpart ⊢
    cases kind with
    | lineComment | blockComment | regex | slash | error => cases hpart
    | _ => rfl

end ComponentDocs.Declaration
