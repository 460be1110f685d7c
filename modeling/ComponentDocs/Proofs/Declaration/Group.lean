import ComponentDocs.Proofs.OpaqueBody
import ComponentDocs.Proofs.Declaration.Level

/-!
# Groups

A bracket group is the shortest stretch of terminals, not empty, whose brackets are properly nested
and matched (`GroupAt`).  Skipping a group stops directly behind it.  Where a place begins no group,
the fault is at the first closing bracket that does not fit the innermost open one (`FirstMisfit`),
or else at the bracket that opens the place.

None of this mentions the stack of awaited brackets.  A stack that has not failed says which bracket
is the innermost open one (`exists_innermost`), and a closing bracket that does not fit it is where
the stack fails (`Misfits.awaitedAfter_eq`).
-/

namespace ComponentDocs

/-! ## The innermost open bracket -/

/-- The bracket on top of the stack is the last one that was opened and not closed. -/
theorem exists_innermost {kinds : List Token.Kind} {innermost : Bracket} {outer : List Bracket}
    (h : awaitedAfter [] kinds = some (innermost :: outer)) :
    ∃ outside inside, kinds = outside ++ .opening innermost :: inside ∧ Nested inside ∧
      awaitedAfter [] outside = some outer := by
  -- On the length, because a group at the end is taken off as a whole.
  induction hlength : kinds.length using Nat.strongRecOn generalizing innermost outer kinds with
  | ind n ih =>
    rcases List.eq_nil_or_concat kinds with rfl | ⟨before, last, rfl⟩
    · cases h
    rw [List.concat_eq_append] at h hlength ⊢
    rw [List.length_append, List.length_singleton] at hlength
    rw [awaitedAfter_append] at h
    obtain ⟨awaited, hbefore, hlast⟩ := Option.bind_eq_some_iff.1 h
    cases hbracket : last.isBracket with
    | false =>
      rw [awaitedAfter_plain hbracket] at hlast
      cases hlast
      obtain ⟨outside, inside, rfl, hinside, houtside⟩ := ih before.length (by omega) hbefore rfl
      exact ⟨outside, inside ++ [last], by simp, hinside.append (.plain hbracket .nil), houtside⟩
    | true =>
      cases last with
      | opening bracket =>
        cases hlast
        exact ⟨before, [], rfl, .nil, hbefore⟩
      | closing bracket =>
        cases awaited with
        | nil => cases hlast
        | cons closed awaited =>
          rw [awaitedAfter] at hlast
          split at hlast
          · rename_i hsame
            cases hlast
            obtain ⟨middle, group, rfl, hgroup, hmiddle⟩ := ih before.length (by omega) hbefore rfl
            rw [List.length_append] at hlength
            obtain ⟨outside, inside, rfl, hinside, houtside⟩ :=
              ih middle.length (by omega) hmiddle rfl
            refine ⟨outside, inside ++ .opening closed :: (group ++ [.closing bracket]), by simp,
              hinside.append ?_, houtside⟩
            exact hsame ▸ .group hgroup .nil
          · cases hlast
      | _ => cases hbracket

namespace Terminal

variable {place group before ts after : List Terminal} {opener t : Terminal} {bracket : Bracket}

/-- From the place up to `after` stands a group, the shortest part of the place whose brackets are
properly nested and matched. -/
structure GroupAt (place group after : List Terminal) : Prop where
  split : place = group ++ after
  ne_nil : group ≠ []
  nested : Nested (group.map kind)
  shortest : ∀ other, other <+: place → other ≠ [] → Nested (other.map kind) →
    group.length ≤ other.length

/-- Behind `before`, the terminal is a closing bracket that does not fit the innermost open one. -/
def Misfits (before : List Terminal) (t : Terminal) : Prop :=
  ∃ outside opener inside bracket other, before = outside ++ opener :: inside ∧
    opener.kind = .opening bracket ∧ Nested (inside.map kind) ∧
    t.kind = .closing other ∧ other ≠ bracket

/-- The first closing bracket from the place on that does not fit the innermost open one. -/
def FirstMisfit (place : List Terminal) (t : Terminal) : Prop :=
  ∃ before rest, place = before ++ t :: rest ∧ Misfits before t ∧
    ∀ earlier u between, before = earlier ++ u :: between → ¬ Misfits earlier u

/-- A bracket that does not fit leaves no stack. -/
theorem Misfits.awaitedAfter_eq (h : Misfits before t) (rest : List Terminal) :
    awaitedAfter [] ((before ++ t :: rest).map kind) = none := by
  obtain ⟨outside, opener, inside, bracket, other, rfl, hopening, hinside, hclosing, hne⟩ := h
  rw [List.append_assoc, List.cons_append, List.map_append, List.map_cons, List.map_append,
    List.map_cons, hopening, hclosing, awaitedAfter_append]
  cases awaitedAfter [] (outside.map kind) with
  | none => rfl
  | some awaited =>
    rw [Option.bind_some, awaitedAfter, hinside.awaitedAfter_eq, awaitedAfter, if_neg hne.symm]

theorem not_misfits_of_awaitedAfter {awaited : List Bracket}
    (h : awaitedAfter [] (place.map kind) = some awaited) {rest : List Terminal}
    (hplace : place = before ++ t :: rest) : ¬ Misfits before t := by
  intro hmisfit
  rw [hplace, hmisfit.awaitedAfter_eq] at h
  cases h

theorem misfits_of_awaitedAfter {innermost other : Bracket} {outer : List Bracket}
    (h : awaitedAfter [] (before.map kind) = some (innermost :: outer))
    (hclosing : t.kind = .closing other) (hne : other ≠ innermost) : Misfits before t := by
  obtain ⟨outside, inside, hsplit, hinside, -⟩ := exists_innermost h
  obtain ⟨front, behind, rfl, -, hbehind⟩ := List.map_eq_append_iff.1 hsplit
  obtain ⟨opener, inner, rfl, hopening, rfl⟩ := List.map_eq_cons_iff.1 hbehind
  exact ⟨front, opener, inner, innermost, other, rfl, hopening, hinside, hclosing, hne⟩

theorem FirstMisfit.unique {u : Terminal} (h : FirstMisfit place t) (h' : FirstMisfit place u) :
    t = u := by
  obtain ⟨before, rest, rfl, hmisfit, hfirst⟩ := h
  obtain ⟨before', rest', hplace, hmisfit', hfirst'⟩ := h'
  rcases List.append_eq_append_iff.1 hplace with ⟨between, rfl, hrest⟩ | ⟨between, rfl, hrest⟩
  · cases between with
    | nil => exact (List.cons.inj hrest).1
    | cons v between =>
      obtain ⟨rfl, -⟩ := List.cons.inj hrest
      exact absurd hmisfit (hfirst' before t between rfl)
  · cases between with
    | nil => exact (List.cons.inj hrest).1.symm
    | cons v between =>
      obtain ⟨rfl, -⟩ := List.cons.inj hrest
      exact absurd hmisfit' (hfirst before' u between rfl)

theorem Closes.exists_nested (hopening : opener.kind = .opening bracket)
    (h : Closes bracket ts after) :
    ∃ group, opener :: ts = group ++ after ∧ group ≠ [] ∧ Nested (group.map kind) := by
  obtain ⟨group, hsplit, hnested⟩ := h.level hopening
  refine ⟨group, hsplit, ?_, hnested⟩
  rintro rfl
  obtain ⟨closer, -, inner, rfl, -⟩ := h
  have hlength := congrArg List.length hsplit
  simp only [List.length_cons, List.length_append, List.nil_append] at hlength
  omega

end Terminal

namespace Declaration

open Terminal

variable {opener : Terminal} {bracket : Bracket} {ts after : List Terminal}

/-! ## Groups that are closed -/

theorem skipGroup_eq_ok_iff :
    skipGroup opener bracket ts = .ok after ↔ Closes bracket ts after := by
  refine ⟨skipGroup_closes, ?_⟩
  rintro ⟨closer, hclosing, inner, rfl, hinner⟩
  exact skipGroup_nested opener hinner hclosing after

/-- A nested part of a place that begins with an opening bracket reaches at least to the closing
bracket of the group. -/
theorem exists_closes_of_nested (hopener : opener.kind = .opening bracket)
    {other rest : List Terminal} (hplace : opener :: ts = other ++ rest) (hother : other ≠ [])
    (hnested : Nested (other.map kind)) : ∃ middle, Closes bracket ts (middle ++ rest) := by
  cases other with
  | nil => exact absurd rfl hother
  | cons first other =>
    obtain ⟨rfl, rfl⟩ := List.cons.inj hplace
    rw [List.map_cons, hopener] at hnested
    generalize hkinds : other.map kind = kinds at hnested
    cases hnested with
    | plain hplain => cases hplain
    | group hinner _ =>
      obtain ⟨inner, behind, rfl, rfl, hbehind⟩ := List.map_eq_append_iff.1 hkinds
      obtain ⟨closer, middle, rfl, hclosing, -⟩ := List.map_eq_cons_iff.1 hbehind
      exact ⟨middle, closer, hclosing, inner, by simp, hinner⟩

theorem Closes.unique {after' : List Terminal} (h : Closes bracket ts after)
    (h' : Closes bracket ts after') : after = after' := by
  -- Skipping a group has one result, whatever opened it.
  have opener : Terminal := ⟨[], ⟨.opening bracket, "", "", 0, 0, false⟩⟩
  have hok : skipGroup opener bracket ts = .ok after := skipGroup_eq_ok_iff.2 h
  rw [skipGroup_eq_ok_iff.2 h'] at hok
  exact (Except.ok.inj hok).symm

theorem closes_iff_exists_groupAt (hopener : opener.kind = .opening bracket) :
    Closes bracket ts after ↔ ∃ group, GroupAt (opener :: ts) group after := by
  constructor
  · intro hcloses
    obtain ⟨group, hsplit, hne, hnested⟩ := hcloses.exists_nested hopener
    refine ⟨group, hsplit, hne, hnested, ?_⟩
    rintro other ⟨rest, hother⟩ hneOther hnestedOther
    obtain ⟨middle, hmiddle⟩ := exists_closes_of_nested hopener hother.symm hneOther hnestedOther
    have hlength := congrArg List.length (hother.trans hsplit)
    rw [Closes.unique hcloses hmiddle] at hlength
    simp only [List.length_append] at hlength
    omega
  · rintro ⟨group, hsplit, hne, hnested, hshortest⟩
    obtain ⟨middle, hmiddle⟩ := exists_closes_of_nested hopener hsplit hne hnested
    obtain ⟨other, hother, hneOther, hnestedOther⟩ := hmiddle.exists_nested hopener
    have hle := hshortest other ⟨middle ++ after, hother.symm⟩ hneOther hnestedOther
    have hlength := congrArg List.length (hother.symm.trans hsplit)
    simp only [List.length_append] at hlength
    have hmiddleNil : middle = [] := List.eq_nil_of_length_eq_zero (by omega)
    rwa [hmiddleNil] at hmiddle

/-! ## Groups that are not closed -/

/-- How the awaited brackets are not closed: a closing bracket does not fit the innermost of them,
or the file ends before. -/
inductive LeftOpen (opener : Terminal) (awaited : List Bracket) : List Terminal → Fault → Prop
  | mismatched {before rest : List Terminal} {t : Terminal} {innermost other : Bracket}
      {outer : List Bracket} (hbefore : awaitedAfter awaited (before.map kind) =
        some (innermost :: outer))
      (hclosing : t.kind = .closing other) (hne : other ≠ innermost) :
      LeftOpen opener awaited (before ++ t :: rest) ⟨some t.line, .mismatched t.text⟩
  | unclosed {ts : List Terminal} {final : List Bracket}
      (hfinal : awaitedAfter awaited (ts.map kind) = some final) :
      LeftOpen opener awaited ts ⟨some opener.line, .unclosed opener.text⟩

theorem LeftOpen.cons {awaited next : List Bracket} {t : Terminal} {fault : Fault}
    (hstep : ∀ kinds, awaitedAfter awaited (t.kind :: kinds) = awaitedAfter next kinds)
    (h : LeftOpen opener next ts fault) : LeftOpen opener awaited (t :: ts) fault := by
  cases h with
  | @mismatched before rest u innermost other outer hbefore hclosing hne =>
    rw [← hstep, ← List.map_cons] at hbefore
    exact .mismatched hbefore hclosing hne
  | unclosed hfinal =>
    rw [← hstep, ← List.map_cons] at hfinal
    exact .unclosed hfinal

theorem leftOpen_of_closeBrackets {awaited : List Bracket} {fault : Fault}
    (h : closeBrackets opener awaited ts = .error fault) : LeftOpen opener awaited ts fault := by
  fun_induction closeBrackets opener awaited ts with
  | case1 => cases h
  | case2 =>
    cases h
    exact .unclosed rfl
  | case3 innermost outer t rest bracket hopening ih =>
    exact (ih h).cons fun kinds => by rw [hopening, awaitedAfter]
  | case4 outer t rest bracket hclosing ih =>
    exact (ih h).cons fun kinds => by rw [hclosing, awaitedAfter_closing]
  | case5 innermost outer t rest bracket hclosing hne =>
    cases h
    have hbefore : awaitedAfter (innermost :: outer) (List.map kind []) =
        some (innermost :: outer) := rfl
    exact .mismatched hbefore hclosing hne
  | case6 innermost outer t rest hopening hclosing ih =>
    exact (ih h).cons fun kinds => awaitedAfter_plain (isBracket_eq_false hopening hclosing) _ _

/-- The fault says the same without a stack. -/
theorem fault_of_leftOpen {fault : Fault} (h : LeftOpen opener [] ts fault) :
    (∃ t, FirstMisfit ts t ∧ fault = ⟨some t.line, .mismatched t.text⟩) ∨
      (∀ t, ¬ FirstMisfit ts t) ∧ fault = ⟨some opener.line, .unclosed opener.text⟩ := by
  cases h with
  | @mismatched before rest t innermost other outer hbefore hclosing hne =>
    refine .inl ⟨t, ⟨before, rest, rfl, misfits_of_awaitedAfter hbefore hclosing hne, ?_⟩, rfl⟩
    exact fun earlier u between hsplit => not_misfits_of_awaitedAfter hbefore hsplit
  | unclosed hfinal =>
    refine .inr ⟨?_, rfl⟩
    rintro t ⟨before, rest, hsplit, hmisfit, -⟩
    exact not_misfits_of_awaitedAfter hfinal hsplit hmisfit

/-- Skipping a group succeeds exactly when a part of the place from its opening bracket on, not
empty, is properly nested and matched, and it stops behind the shortest one.  Otherwise the fault is
at the first closing bracket that does not fit the innermost open one, or, if there is none up to
the end of the file, at the opening bracket. -/
theorem skipGroup_groupAt (hopener : opener.kind = .opening bracket) (ts : List Terminal) :
    ((∃ after, skipGroup opener bracket ts = .ok after) ↔
        ∃ part, part <+: opener :: ts ∧ part ≠ [] ∧ Nested (part.map kind)) ∧
      (∀ after, skipGroup opener bracket ts = .ok after ↔
        ∃ group, GroupAt (opener :: ts) group after) ∧
      ((¬ ∃ part, part <+: opener :: ts ∧ part ≠ [] ∧ Nested (part.map kind)) →
        (∀ t, FirstMisfit (opener :: ts) t →
          skipGroup opener bracket ts = .error ⟨some t.line, .mismatched t.text⟩) ∧
        ((¬ ∃ t, FirstMisfit (opener :: ts) t) →
          skipGroup opener bracket ts = .error ⟨some opener.line, .unclosed opener.text⟩)) := by
  have hok : ∀ after, skipGroup opener bracket ts = .ok after ↔
      ∃ group, GroupAt (opener :: ts) group after :=
    fun after => skipGroup_eq_ok_iff.trans (closes_iff_exists_groupAt hopener)
  have hnested : (∃ after, skipGroup opener bracket ts = .ok after) ↔
      ∃ part, part <+: opener :: ts ∧ part ≠ [] ∧ Nested (part.map kind) := by
    constructor
    · rintro ⟨after, hafter⟩
      obtain ⟨group, hgroup⟩ := (hok after).1 hafter
      exact ⟨group, ⟨after, hgroup.split.symm⟩, hgroup.ne_nil, hgroup.nested⟩
    · rintro ⟨part, ⟨rest, hsplit⟩, hne, hpart⟩
      obtain ⟨middle, hcloses⟩ := exists_closes_of_nested hopener hsplit.symm hne hpart
      exact ⟨_, skipGroup_eq_ok_iff.2 hcloses⟩
  refine ⟨hnested, hok, fun hnone => ?_⟩
  cases hresult : skipGroup opener bracket ts with
  | ok after => exact absurd (hnested.1 ⟨after, hresult⟩) hnone
  | error fault =>
    have hleft : LeftOpen opener [] (opener :: ts) fault :=
      (leftOpen_of_closeBrackets hresult).cons fun kinds => by rw [hopener, awaitedAfter]
    rcases fault_of_leftOpen hleft with ⟨first, hfirst, rfl⟩ | ⟨hfits, rfl⟩
    · exact ⟨fun t ht => by rw [ht.unique hfirst], fun hfits => absurd ⟨first, hfirst⟩ hfits⟩
    · exact ⟨fun t ht => absurd ht (hfits t), fun _ => rfl⟩

-- The bracket in the comment does not close the group, and the group ends before the last bracket.
theorem skipGroup_groupAt_comment :
    ∃ opener ts group after, ofTokens (Token.scan "([0] /* ) */) + 1)") = opener :: ts ∧
      opener.kind = .opening .paren ∧ GroupAt (opener :: ts) group after ∧
      after.map text = ["+", "1", ")"] := by
  have hne : ofTokens (Token.scan "([0] /* ) */) + 1)") ≠ [] := by decide +kernel
  have hhead : (ofTokens (Token.scan "([0] /* ) */) + 1)")).head?.map kind =
      some (.opening .paren) := by decide +kernel
  have hresult : (ofTokens (Token.scan "([0] /* ) */) + 1)")).head?.map (fun opener =>
      (skipGroup opener .paren (ofTokens (Token.scan "([0] /* ) */) + 1)")).tail).map
        (List.map text)) = some (.ok ["+", "1", ")"]) := by decide +kernel
  obtain ⟨opener, ts, hplace⟩ := List.exists_cons_of_ne_nil hne
  rw [hplace] at hhead hresult
  have hopener : opener.kind = .opening .paren := Option.some.inj hhead
  obtain ⟨after, hafter, htexts⟩ := map_eq_ok_iff.1 (Option.some.inj hresult)
  obtain ⟨group, hgroup⟩ := ((skipGroup_groupAt hopener ts).2.1 after).1 hafter
  exact ⟨opener, ts, group, after, hplace, hopener, hgroup, htexts⟩

end Declaration

end ComponentDocs
