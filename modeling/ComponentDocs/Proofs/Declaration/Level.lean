import ComponentDocs.Proofs.Nesting
import ComponentDocs.Proofs.Declaration.Argument
import ComponentDocs.Proofs.Declaration.Equations

/-!
# Parsers close what they open

`SameLevel ts after` says that the brackets between two places are properly nested, and
`Closes bracket ts after` that in addition the bracket opened before `ts` is closed just before
`after`.  A parser that succeeds stops at a place on the level where it started, or closes the
bracket it stands in.  There is one lemma for each parser, made of those of the parsers it
consists of by the rules for the two relations.

The header of a class is the exception.  Its computed base and its list of interfaces are passed
over terminal by terminal, and nothing is said about them here.
-/

namespace ComponentDocs

namespace Terminal

/-- Between the two places every bracket that is opened is closed, and no other one. -/
def SameLevel (ts after : List Terminal) : Prop :=
  ∃ piece, ts = piece ++ after ∧ Nested (piece.map kind)

/-- Between the two places the bracket that is open at the first of them is closed, and every
bracket opened after it. -/
def Closes (bracket : Bracket) (ts after : List Terminal) : Prop :=
  ∃ closer, closer.kind = .closing bracket ∧ SameLevel ts (closer :: after)

variable {t : Terminal} {ts rest middle after : List Terminal} {bracket : Bracket}

theorem SameLevel.refl (ts : List Terminal) : SameLevel ts ts :=
  ⟨[], rfl, .nil⟩

theorem SameLevel.trans (h : SameLevel ts middle) (h' : SameLevel middle after) :
    SameLevel ts after := by
  obtain ⟨piece, rfl, hpiece⟩ := h
  obtain ⟨other, rfl, hother⟩ := h'
  refine ⟨piece ++ other, (List.append_assoc _ _ _).symm, ?_⟩
  rw [List.map_append]
  exact hpiece.append hother

theorem SameLevel.cons (hplain : t.kind.isBracket = false) (h : SameLevel rest after) :
    SameLevel (t :: rest) after := by
  obtain ⟨piece, rfl, hpiece⟩ := h
  exact ⟨t :: piece, rfl, .plain hplain hpiece⟩

theorem SameLevel.closes (h : SameLevel ts middle) (h' : Closes bracket middle after) :
    Closes bracket ts after := by
  obtain ⟨closer, hkind, hlevel⟩ := h'
  exact ⟨closer, hkind, h.trans hlevel⟩

theorem Closes.here (hclosing : t.kind = .closing bracket) : Closes bracket (t :: rest) rest :=
  ⟨t, hclosing, .refl _⟩

theorem Closes.cons (hplain : t.kind.isBracket = false) (h : Closes bracket rest after) :
    Closes bracket (t :: rest) after :=
  (SameLevel.cons hplain (.refl rest)).closes h

/-- A group lies on one level. -/
theorem Closes.level (hopening : t.kind = .opening bracket) (h : Closes bracket rest after) :
    SameLevel (t :: rest) after := by
  obtain ⟨closer, hclosing, piece, rfl, hpiece⟩ := h
  refine ⟨t :: (piece ++ [closer]), by simp, ?_⟩
  rw [List.map_cons, List.map_append, hopening, List.map_cons, List.map_nil, hclosing]
  exact .group hpiece .nil

theorem isBracket_of_isWord {word : String} (h : t.isWord word = true) :
    t.kind.isBracket = false := by
  rw [beq_iff_eq.1 (Bool.and_eq_true_iff.1 h).1]
  rfl

theorem isBracket_of_isOperator {text : String} (h : t.isOperator text = true) :
    t.kind.isBracket = false := by
  rw [beq_iff_eq.1 (Bool.and_eq_true_iff.1 h).1]
  rfl

theorem skipOptional_level {kind : Token.Kind} (hplain : kind.isBracket = false)
    (ts : List Terminal) : SameLevel ts (skipOptional kind ts) := by
  fun_cases skipOptional kind ts with
  | case1 => exact .refl _
  | case2 t rest hkind => exact .cons (hkind ▸ hplain) (.refl rest)
  | case3 => exact .refl _

end Terminal

namespace Declaration

open Terminal

variable {ts after : List Terminal}

/-! ## Groups -/

/-- Awaited brackets are closed one after the other, the innermost first. -/
theorem closeBrackets_closes {opener : Terminal} {bracket : Bracket} {outer : List Bracket}
    (h : closeBrackets opener (bracket :: outer) ts = .ok after) :
    ∃ middle, Closes bracket ts middle ∧ closeBrackets opener outer middle = .ok after := by
  -- On the length of the place, because a group inside is passed as a whole.
  induction hlength : ts.length using Nat.strongRecOn generalizing bracket outer ts with
  | ind n ih =>
    cases ts with
    | nil => cases h
    | cons t rest =>
      rw [List.length_cons] at hlength
      rw [closeBrackets] at h
      split at h
      · rename_i inner hopening
        obtain ⟨behind, hgroup, hbehind⟩ := ih rest.length (by omega) h rfl
        have hlevel := hgroup.level hopening
        have hshorter : behind.length < rest.length := by
          obtain ⟨closer, -, piece, rfl, -⟩ := hgroup
          simp only [List.length_append, List.length_cons]
          omega
        obtain ⟨middle, hcloses, hmiddle⟩ := ih behind.length (by omega) hbehind rfl
        exact ⟨middle, hlevel.closes hcloses, hmiddle⟩
      · rename_i found hclosing
        split at h
        · rename_i hsame
          exact ⟨rest, .here (hsame ▸ hclosing), h⟩
        · cases h
      · rename_i hopening hclosing
        obtain ⟨middle, hcloses, hmiddle⟩ := ih rest.length (by omega) h rfl
        exact ⟨middle, .cons (isBracket_eq_false hopening hclosing) hcloses, hmiddle⟩

theorem skipGroup_closes {opener : Terminal} {bracket : Bracket}
    (h : skipGroup opener bracket ts = .ok after) : Closes bracket ts after := by
  obtain ⟨middle, hcloses, hmiddle⟩ := closeBrackets_closes h
  rw [closeBrackets] at hmiddle
  cases hmiddle
  exact hcloses

theorem skipItem_level {t : Terminal} {rest : List Terminal} (hclosing : ¬ t.kind.isClosing = true)
    (h : skipItem t rest = .ok after) : SameLevel (t :: rest) after := by
  unfold skipItem at h
  split at h
  · rename_i bracket hopening
    exact (skipGroup_closes h).level hopening
  · rename_i hopening
    cases h
    refine .cons ?_ (.refl _)
    generalize t.kind = kind at hopening hclosing
    cases kind with
    | opening bracket => exact absurd rfl (hopening bracket)
    | closing bracket => exact absurd rfl hclosing
    | _ => rfl

theorem closeAngles_level {opener : Terminal} {depth : Nat}
    (h : closeAngles opener depth ts = .ok after) : SameLevel ts after := by
  fun_induction closeAngles opener depth ts with
  | case1 => cases h; exact .refl _
  | case2 => cases h
  | case3 depth t rest hless ih => exact .cons (by rw [hless]; rfl) (ih h)
  | case4 depth t rest hless hgreater ih => exact .cons (by rw [hgreater]; rfl) (ih h)
  | case5 => cases h
  | case6 => cases h
  | case7 depth t rest hless hgreater hend next hitem ih =>
    exact (skipItem_level (fun hclosing => hend (.inl hclosing)) hitem).trans (ih h)

theorem skipAngles_level {opener : Terminal} (h : skipAngles opener ts = .ok after) :
    SameLevel ts after :=
  closeAngles_level h

theorem skipStatement_level {started : Bool} (h : skipStatement started ts = .ok after) :
    SameLevel ts after := by
  fun_induction skipStatement started ts with
  | case1 => cases h; exact .refl _
  | case2 => cases h; exact .refl _
  | case3 started t rest hbegins hsemicolon =>
    cases h
    exact .cons (by rw [hsemicolon]; rfl) (.refl _)
  | case4 => cases h
  | case5 => cases h
  | case6 started t rest hbegins hsemicolon hclosing next hitem hend =>
    cases h
    exact skipItem_level hclosing hitem
  | case7 started t rest hbegins hsemicolon hclosing next hitem hend ih =>
    exact (skipItem_level hclosing hitem).trans (ih h)

theorem skipInitializer_level {complete : Bool} (h : skipInitializer complete ts = .ok after) :
    SameLevel ts after := by
  fun_induction skipInitializer complete ts with
  | case1 => cases h; exact .refl _
  | case2 => cases h; exact .refl _
  | case3 => cases h; exact .refl _
  | case4 => cases h
  | case5 => cases h
  | case6 complete t rest hend hline hclosing next hitem ih =>
    exact (skipItem_level hclosing hitem).trans (ih h)

/-! ## Arguments -/

theorem skipExpression_level (h : skipExpression ts = .ok after) : SameLevel ts after := by
  fun_induction skipExpression ts with
  | case1 => cases h; exact .refl _
  | case2 => cases h; exact .refl _
  | case3 => cases h
  | case4 t rest hend next hitem ih =>
    refine (skipItem_level ?_ hitem).trans (ih h)
    intro hclosing
    exact hend (by rw [endsItem, hclosing, Bool.or_true])

theorem parseOther_level {before : List Terminal} {expr : Expr}
    (h : parseOther before ts = .ok (expr, after)) : SameLevel ts after := by
  obtain ⟨rest, hskip, h⟩ := bind_eq_ok_iff.1 h
  cases h
  exact skipExpression_level hskip

theorem parseRest_level {before : List Terminal} {expr found : Expr}
    (h : parseRest before expr ts = .ok (found, after)) : SameLevel ts after := by
  unfold parseRest at h
  split at h
  · cases h; exact .refl _
  · exact parseOther_level h

theorem parseMore_closes {α : Type} {bracket : Bracket}
    {others : List Terminal → Except Fault (List α × List Terminal)} {item : Option α}
    {items : List α} (h : parseMore bracket others item ts = .ok (items, after))
    (hothers : ∀ found final, others ts.tail = .ok (found, final) →
      Closes bracket ts.tail final) : Closes bracket ts after := by
  cases ts with
  | nil => cases h
  | cons u rest =>
    rw [parseMore] at h
    split at h
    · rename_i hcomma
      obtain ⟨⟨found, final⟩, hfound, h⟩ := bind_eq_ok_iff.1 h
      cases h
      exact .cons (by rw [hcomma]; rfl) (hothers _ _ hfound)
    · split at h
      · rename_i hclosing
        cases h
        exact .here hclosing
      · cases h

theorem entryKey?_isBracket {t : Terminal} {key : String} (h : entryKey? t = some key) :
    t.kind.isBracket = false := by
  unfold entryKey? at h
  generalize t.kind = kind at h
  cases kind with
  | opening bracket => cases h
  | closing bracket => cases h
  | _ => rfl

mutual

theorem parseExpr_level {ts after : List Terminal} {expr : Expr}
    (h : parseExpr ts = .ok (expr, after)) : SameLevel ts after := by
  cases ts with
  | nil =>
    rw [parseExpr_nil] at h
    cases h
    exact .refl _
  | cons t rest =>
    rw [parseExpr_cons] at h
    split at h
    · rename_i hopening
      obtain ⟨⟨entries, afterEntries⟩, hentries, h⟩ := bind_eq_ok_iff.1 h
      exact ((parseEntries_closes hentries).level hopening).trans (parseRest_level h)
    · rename_i hopening
      obtain ⟨⟨items, afterItems⟩, hitems, h⟩ := bind_eq_ok_iff.1 h
      exact ((parseItems_closes hitems).level hopening).trans (parseRest_level h)
    · rename_i hkind
      exact .cons (by rw [hkind]; rfl) (parseRest_level h)
    · rename_i hkind
      split at h
      · exact parseOther_level h
      · exact .cons (by rw [hkind]; rfl) (parseRest_level h)
    · rename_i hkind
      exact .cons (by rw [hkind]; rfl) (parseRest_level h)
    · exact parseOther_level h
termination_by 3 * ts.length

theorem parseItem_level {bracket : Bracket} {ts after : List Terminal} {item : Option Expr}
    (h : parseItem bracket ts = .ok (item, after)) : SameLevel ts after := by
  rw [parseItem_eq] at h
  split at h
  · obtain ⟨final, hskip, h⟩ := map_eq_ok_iff.1 h
    cases h
    exact skipExpression_level hskip
  · obtain ⟨⟨expr, final⟩, hexpr, h⟩ := map_eq_ok_iff.1 h
    cases h
    exact parseExpr_level hexpr
termination_by 3 * ts.length + 1

theorem parseItems_closes {bracket : Bracket} {opener : Terminal} {ts after : List Terminal}
    {items : List Expr} (h : parseItems bracket opener ts = .ok (items, after)) :
    Closes bracket ts after := by
  cases ts with
  | nil =>
    rw [parseItems_nil] at h
    cases h
  | cons t rest =>
    rw [parseItems_cons] at h
    split at h
    · rename_i hclosing
      cases h
      exact .here hclosing
    · obtain ⟨⟨item, afterItem⟩, hitem, h⟩ := bind_eq_ok_iff.1 h
      refine (parseItem_level hitem).closes (parseMore_closes h ?_)
      intro found final hfound
      have hle := (outcome_suffix hitem).length_le
      have hne : afterItem ≠ [] := by
        rintro rfl
        cases h
      have hpos := List.length_pos_iff.2 hne
      rw [List.length_cons] at hle
      exact parseItems_closes hfound
termination_by 3 * ts.length + 2

theorem parseEntry_level {ts after : List Terminal} {entry : Option (String × Expr)}
    (h : parseEntry ts = .ok (entry, after)) : SameLevel ts after := by
  cases ts with
  | nil =>
    rw [parseEntry_nil] at h
    cases h
    exact .refl _
  | cons t rest =>
    rw [parseEntry_cons] at h
    split at h
    · obtain ⟨final, hskip, h⟩ := map_eq_ok_iff.1 h
      cases h
      exact skipExpression_level hskip
    · rename_i key hkey
      refine .cons (entryKey?_isBracket hkey) ?_
      cases rest with
      | nil => cases h; exact .refl _
      | cons u more =>
        dsimp only at h
        split at h
        · rename_i hcolon
          obtain ⟨⟨expr, final⟩, hexpr, h⟩ := map_eq_ok_iff.1 h
          cases h
          exact .cons (by rw [hcolon]; rfl) (parseExpr_level hexpr)
        · split at h
          · cases h; exact .refl _
          · obtain ⟨final, hskip, h⟩ := map_eq_ok_iff.1 h
            cases h
            exact skipExpression_level hskip
termination_by 3 * ts.length + 1

theorem parseEntries_closes {opener : Terminal} {ts after : List Terminal}
    {entries : List (String × Expr)} (h : parseEntries opener ts = .ok (entries, after)) :
    Closes .brace ts after := by
  cases ts with
  | nil =>
    rw [parseEntries_nil] at h
    cases h
  | cons t rest =>
    rw [parseEntries_cons] at h
    split at h
    · rename_i hclosing
      cases h
      exact .here hclosing
    · obtain ⟨⟨entry, afterEntry⟩, hentry, h⟩ := bind_eq_ok_iff.1 h
      refine (parseEntry_level hentry).closes (parseMore_closes h ?_)
      intro found final hfound
      have hle := (outcome_suffix hentry).length_le
      have hne : afterEntry ≠ [] := by
        rintro rfl
        cases h
      have hpos := List.length_pos_iff.2 hne
      rw [List.length_cons] at hle
      exact parseEntries_closes hfound
termination_by 3 * ts.length + 2

end

end Declaration

end ComponentDocs
