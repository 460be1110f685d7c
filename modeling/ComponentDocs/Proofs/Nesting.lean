import ComponentDocs.Token.Basic

/-!
# Nested brackets

`Nested` is the grammar of token kinds whose brackets are properly nested and matched.
`awaitedAfter` reads the same property off from left to right with a stack of the brackets that
still have to be closed.  `nested_iff_awaitedAfter` says that the two agree, which makes `Nested`
decidable and lets a nested part be taken away at either end of a list (`Nested.append_iff_right`,
`Nested.append_iff_left`).
-/

namespace ComponentDocs

def Token.Kind.isBracket : Token.Kind → Bool
  | .opening _ | .closing _ => true
  | _ => false

theorem isBracket_eq_false {kind : Token.Kind} (hopening : ∀ bracket, kind ≠ .opening bracket)
    (hclosing : ∀ bracket, kind ≠ .closing bracket) : kind.isBracket = false := by
  cases kind with
  | opening bracket => exact absurd rfl (hopening bracket)
  | closing bracket => exact absurd rfl (hclosing bracket)
  | _ => rfl

/-- The brackets among these kinds are properly nested and matched. -/
inductive Nested : List Token.Kind → Prop
  | nil : Nested []
  | plain {kind : Token.Kind} {rest : List Token.Kind} (hplain : kind.isBracket = false)
      (hrest : Nested rest) : Nested (kind :: rest)
  | group {bracket : Bracket} {inner rest : List Token.Kind} (hinner : Nested inner)
      (hrest : Nested rest) : Nested (.opening bracket :: (inner ++ .closing bracket :: rest))

/-- The brackets that have to be closed behind these kinds, innermost first, when those of `awaited`
have to be closed before them.  There are none when a closing bracket does not fit. -/
def awaitedAfter (awaited : List Bracket) : List Token.Kind → Option (List Bracket)
  | [] => some awaited
  | .opening bracket :: rest => awaitedAfter (bracket :: awaited) rest
  | .closing bracket :: rest =>
    match awaited with
    | [] => none
    | innermost :: outer => if innermost = bracket then awaitedAfter outer rest else none
  | _ :: rest => awaitedAfter awaited rest

theorem awaitedAfter_plain {kind : Token.Kind} (hplain : kind.isBracket = false)
    (awaited : List Bracket) (rest : List Token.Kind) :
    awaitedAfter awaited (kind :: rest) = awaitedAfter awaited rest := by
  cases kind with
  | opening bracket => cases hplain
  | closing bracket => cases hplain
  | _ => rfl

theorem awaitedAfter_closing (bracket : Bracket) (outer : List Bracket) (rest : List Token.Kind) :
    awaitedAfter (bracket :: outer) (.closing bracket :: rest) = awaitedAfter outer rest :=
  if_pos rfl

/-- Nested kinds leave the stack as it was. -/
theorem Nested.awaitedAfter_eq {kinds : List Token.Kind} (h : Nested kinds)
    (awaited : List Bracket) (rest : List Token.Kind) :
    awaitedAfter awaited (kinds ++ rest) = awaitedAfter awaited rest := by
  induction h generalizing awaited rest with
  | nil => rfl
  | plain hplain hrest ih => rw [List.cons_append, awaitedAfter_plain hplain, ih]
  | @group bracket inner others hinner hrest ihInner ihRest =>
    rw [List.cons_append, List.append_assoc, awaitedAfter, ihInner, List.cons_append,
      awaitedAfter_closing, ihRest]

theorem Nested.append {kinds others : List Token.Kind} (h : Nested kinds) (h' : Nested others) :
    Nested (kinds ++ others) := by
  induction h with
  | nil => exact h'
  | plain hplain hrest ih => exact .plain hplain ih
  | group hinner hrest ihInner ihRest =>
    rw [List.cons_append, List.append_assoc, List.cons_append]
    exact .group hinner ihRest

/-- When the stack gets below `bracket`, there is a first place where it does. -/
theorem exists_closing {bracket : Bracket} {outer final : List Bracket}
    {kinds : List Token.Kind} (h : awaitedAfter (bracket :: outer) kinds = some final)
    (hfinal : final.length ≤ outer.length) :
    ∃ inner rest, kinds = inner ++ .closing bracket :: rest ∧ Nested inner ∧
      awaitedAfter outer rest = some final := by
  -- On the length, because a group inside is taken off as a whole.
  induction hlength : kinds.length using Nat.strongRecOn generalizing bracket outer kinds with
  | ind n ih =>
    cases kinds with
    | nil =>
      cases h
      exact absurd hfinal (Nat.not_succ_le_self _)
    | cons kind kinds =>
      rw [List.length_cons] at hlength
      cases hbracket : kind.isBracket with
      | false =>
        rw [awaitedAfter_plain hbracket] at h
        obtain ⟨inner, rest, rfl, hinner, hrest⟩ := ih kinds.length (by omega) h hfinal rfl
        exact ⟨kind :: inner, rest, rfl, .plain hbracket hinner, hrest⟩
      | true =>
        cases kind with
        | opening other =>
          rw [awaitedAfter] at h
          obtain ⟨group, behind, rfl, hgroup, hbehind⟩ :=
            ih kinds.length (by omega) h (Nat.le_succ_of_le hfinal) rfl
          simp only [List.length_append, List.length_cons] at hlength
          obtain ⟨inner, rest, rfl, hinner, hrest⟩ := ih behind.length (by omega) hbehind hfinal rfl
          refine ⟨.opening other :: (group ++ .closing other :: inner), rest, ?_,
            .group hgroup hinner, hrest⟩
          rw [List.cons_append, List.append_assoc, List.cons_append]
        | closing other =>
          rw [awaitedAfter] at h
          split at h
          · rename_i hsame
            exact ⟨[], kinds, by rw [hsame]; rfl, .nil, h⟩
          · cases h
        | _ => cases hbracket

theorem nested_of_awaitedAfter {kinds : List Token.Kind} (h : awaitedAfter [] kinds = some []) :
    Nested kinds := by
  induction hlength : kinds.length using Nat.strongRecOn generalizing kinds with
  | ind n ih =>
    cases kinds with
    | nil => exact .nil
    | cons kind kinds =>
      rw [List.length_cons] at hlength
      cases hbracket : kind.isBracket with
      | false =>
        rw [awaitedAfter_plain hbracket] at h
        exact .plain hbracket (ih kinds.length (by omega) h rfl)
      | true =>
        cases kind with
        | opening bracket =>
          obtain ⟨inner, rest, rfl, hinner, hrest⟩ := exists_closing h (Nat.le_refl 0)
          simp only [List.length_append, List.length_cons] at hlength
          exact .group hinner (ih rest.length (by omega) hrest rfl)
        | closing bracket => cases h
        | _ => cases hbracket

theorem nested_iff_awaitedAfter {kinds : List Token.Kind} :
    Nested kinds ↔ awaitedAfter [] kinds = some [] := by
  refine ⟨fun h => ?_, nested_of_awaitedAfter⟩
  have hrun := h.awaitedAfter_eq [] []
  rwa [List.append_nil] at hrun

instance (kinds : List Token.Kind) : Decidable (Nested kinds) :=
  decidable_of_iff _ nested_iff_awaitedAfter.symm

/-! ## Parts of a list -/

theorem awaitedAfter_append (awaited : List Bracket) (kinds rest : List Token.Kind) :
    awaitedAfter awaited (kinds ++ rest) =
      (awaitedAfter awaited kinds).bind fun middle => awaitedAfter middle rest := by
  fun_induction awaitedAfter awaited kinds with
  | case1 => rfl
  | case2 awaited bracket others ih => exact ih
  | case3 bracket others => rfl
  | case4 bracket others outer ih =>
    rw [List.cons_append, awaitedAfter_closing]
    exact ih
  | case5 bracket others innermost outer hne =>
    rw [List.cons_append, awaitedAfter, if_neg hne]
    rfl
  | case6 awaited kind others hopening hclosing ih =>
    rw [List.cons_append, awaitedAfter_plain (isBracket_eq_false hopening hclosing)]
    exact ih

/-- A nested part in front can be taken away. -/
theorem Nested.append_iff_right {kinds : List Token.Kind} (h : Nested kinds)
    (rest : List Token.Kind) : Nested (kinds ++ rest) ↔ Nested rest := by
  rw [nested_iff_awaitedAfter, nested_iff_awaitedAfter, h.awaitedAfter_eq]

/-- A nested part at the end can be taken away. -/
theorem Nested.append_iff_left {rest : List Token.Kind} (h : Nested rest)
    (kinds : List Token.Kind) : Nested (kinds ++ rest) ↔ Nested kinds := by
  have hrest : ∀ awaited, awaitedAfter awaited rest = some awaited := by
    intro awaited
    have hrun := h.awaitedAfter_eq awaited []
    rwa [List.append_nil] at hrun
  rw [nested_iff_awaitedAfter, nested_iff_awaitedAfter, awaitedAfter_append]
  cases awaitedAfter [] kinds with
  | none => rfl
  | some middle => rw [Option.bind_some, hrest]

/-- Comments are no brackets. -/
theorem Nested.filter_comments {kinds : List Token.Kind} (h : Nested kinds) :
    Nested (kinds.filter fun kind => !kind.isComment) := by
  induction h with
  | nil => exact .nil
  | @plain kind rest hplain hrest ih =>
    rw [List.filter_cons]
    split
    · exact .plain hplain ih
    · exact ih
  | @group bracket inner rest hinner hrest ihInner ihRest =>
    rw [List.filter_cons_of_pos rfl, List.filter_append, List.filter_cons_of_pos rfl]
    exact .group ihInner ihRest

end ComponentDocs
