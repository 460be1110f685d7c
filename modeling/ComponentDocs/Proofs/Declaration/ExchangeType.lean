import ComponentDocs.Proofs.Declaration.Exchange

/-!
# Types before another rest

The lemmas on exchanging what stands behind, for the parsers of types.  A type has no closing
bracket of its own and goes on as long as it can, so all of these lemmas need the seam.
-/

namespace ComponentDocs.Declaration

open Terminal

variable {rest ts after : List Terminal}

theorem skipQualifiers_of_head (hts : ∀ t ∈ ts.head?, t.kind ≠ .dot) :
    skipQualifiers ts = .ok ts := by
  cases ts with
  | nil => rfl
  | cons t ts => rw [skipQualifiers_cons, if_neg (hts t rfl)]

theorem skipQualifiers_exchange {other : List Terminal} (h : skipQualifiers ts = .ok after)
    (hrest : rest <:+ after) (hseam : Seam rest other after) :
    skipQualifiers (exchange rest other ts) = .ok (exchange rest other after) := by
  fun_induction skipQualifiers ts with
  | case1 =>
    cases h
    exact skipQualifiers_of_head
      (hseam.head hrest (by simp) fun hends => hends.kind_ne (by decide) (by decide))
  | case2 => cases h
  | case3 dot hdot name ts hname ih =>
    have hts := hrest.trans (skipQualifiers_suffix h)
    rw [exchange_cons (hts.trans (List.suffix_cons name ts)), exchange_cons hts,
      skipQualifiers_cons, if_pos hdot]
    dsimp only
    rw [if_pos hname]
    exact ih h
  | case4 => cases h
  | case5 dot ts hdot =>
    cases h
    refine skipQualifiers_of_head
      (hseam.head hrest ?_ fun hends => hends.kind_ne (by decide) (by decide))
    rintro t ⟨⟩
    exact hdot

theorem skipOptionalAngles_of_head (hts : ∀ t ∈ ts.head?, t.kind ≠ .less) :
    skipOptionalAngles ts = .ok ts := by
  cases ts with
  | nil => rfl
  | cons t ts => exact if_neg (hts t rfl)

theorem skipOptionalAngles_exchange {other : List Terminal}
    (h : skipOptionalAngles ts = .ok after) (hrest : rest <:+ after)
    (hseam : Seam rest other after) :
    skipOptionalAngles (exchange rest other ts) = .ok (exchange rest other after) := by
  by_cases hless : ∀ t ∈ ts.head?, t.kind ≠ .less
  · rw [skipOptionalAngles_of_head hless] at h
    cases h
    exact skipOptionalAngles_of_head
      (hseam.head hrest hless fun hends => hends.kind_ne (by decide) (by decide))
  · cases ts with
    | nil => simp at hless
    | cons t ts =>
      have hopen : t.kind = .less := by simpa using hless
      rw [skipOptionalAngles, if_pos hopen] at h
      rw [exchange_cons (hrest.trans (skipAngles_suffix h)), skipOptionalAngles, if_pos hopen]
      exact skipAngles_exchange h hrest other

theorem skipOptionalGroup_of_head {bracket : Bracket}
    (hts : ∀ t ∈ ts.head?, t.kind ≠ .opening bracket) : skipOptionalGroup bracket ts = .ok ts := by
  cases ts with
  | nil => rfl
  | cons t ts => exact if_neg (hts t rfl)

theorem skipOptionalGroup_exchange {bracket : Bracket} {other : List Terminal}
    (h : skipOptionalGroup bracket ts = .ok after) (hrest : rest <:+ after)
    (hseam : Seam rest other after) :
    skipOptionalGroup bracket (exchange rest other ts) = .ok (exchange rest other after) := by
  by_cases hopening : ∀ t ∈ ts.head?, t.kind ≠ .opening bracket
  · rw [skipOptionalGroup_of_head hopening] at h
    cases h
    exact skipOptionalGroup_of_head
      (hseam.head hrest hopening fun hends => hends.kind_ne nofun nofun)
  · cases ts with
    | nil => simp at hopening
    | cons t ts =>
      have hopen : t.kind = .opening bracket := by simpa using hopening
      rw [skipOptionalGroup, if_pos hopen] at h
      rw [exchange_cons (hrest.trans (skipGroup_suffix h)), skipOptionalGroup, if_pos hopen]
      exact skipGroup_exchange h hrest other

theorem skipTypeName_exchange {other : List Terminal} (h : skipTypeName ts = .ok after)
    (hrest : rest <:+ after) (hseam : Seam rest other after) :
    skipTypeName (exchange rest other ts) = .ok (exchange rest other after) := by
  obtain ⟨middle, hnames, h⟩ := bind_eq_ok_iff.1 h
  have hmiddle := skipOptionalAngles_suffix h
  rw [skipTypeName, skipQualifiers_exchange hnames (hrest.trans hmiddle)
    (hseam.of_suffix hmiddle hrest), ok_bind, skipOptionalAngles_exchange h hrest hseam]

/-- A name that is no operator is a part of a type up to the place after it. -/
theorem skipTypePart_name {t : Terminal} {middle : List Terminal} (hkind : t.kind = .word)
    (hoperator : ¬typeOperators.contains t.text = true) (hname : skipTypeName ts = .ok middle)
    (his : ∀ word ∈ middle.head?, ¬word.isWord "is" = true) :
    skipTypePart (t :: ts) = .ok middle := by
  rw [skipTypePart_cons]
  simp only [hkind]
  rw [if_neg hoperator, hname, ok_bind]
  cases middle with
  | nil => rfl
  | cons word middle => exact if_neg (his word rfl)

theorem endsText.not_is {t : Terminal} (h : t.endsText) : ¬t.isWord "is" = true := by
  rcases h with hkind | hword
  · simp [isWord, hkind]
  · simp only [isWord, Bool.and_eq_true, beq_iff_eq] at hword ⊢
    rw [hword.2]
    simp

theorem skipTypePart_exchange {other : List Terminal} (h : skipTypePart ts = .ok after)
    (hrest : rest <:+ after) (hseam : Seam rest other after) :
    skipTypePart (exchange rest other ts) = .ok (exchange rest other after) := by
  fun_induction skipTypePart ts with
  | case1 => cases h
  | case2 t ts bracket hkind =>
    rw [exchange_cons (hrest.trans (skipGroup_suffix h)), skipTypePart_cons]
    simp only [hkind]
    exact skipGroup_exchange h hrest other
  | case3 t ts hkind =>
    obtain ⟨middle, hangles, h⟩ := bind_eq_ok_iff.1 h
    have hmiddle := hrest.trans (skipOptionalGroup_suffix h)
    rw [exchange_cons (hmiddle.trans (skipAngles_suffix hangles)), skipTypePart_cons]
    simp only [hkind]
    rw [skipAngles_exchange hangles hmiddle other, ok_bind]
    exact skipOptionalGroup_exchange h hrest hseam
  | case4 t ts hkind hoperator ih =>
    rw [exchange_cons (hrest.trans (skipTypePart_suffix h)), skipTypePart_cons]
    simp only [hkind]
    rw [if_pos hoperator]
    exact ih h
  | case5 => cases h
  | case6 t ts hkind hoperator hname =>
    cases h
    rw [exchange_cons (hrest.trans (skipTypeName_suffix hname))]
    exact skipTypePart_name hkind hoperator (skipTypeName_exchange hname hrest hseam)
      (hseam.head hrest (by simp) endsText.not_is)
  | case7 t ts hkind hoperator word middle hname his ih =>
    have hmiddle := hrest.trans (skipTypePart_suffix h)
    have hword := hmiddle.trans (List.suffix_cons word middle)
    rw [exchange_cons (hword.trans (skipTypeName_suffix hname)), skipTypePart_cons]
    simp only [hkind]
    rw [if_neg hoperator,
      skipTypeName_exchange hname hword (.inl (cons_ne_of_suffix hmiddle word)), ok_bind,
      exchange_cons hmiddle]
    dsimp only
    rw [if_pos his]
    exact ih h
  | case8 t ts hkind hoperator word middle hname his =>
    cases h
    rw [exchange_cons (hrest.trans (skipTypeName_suffix hname))]
    refine skipTypePart_name hkind hoperator (skipTypeName_exchange hname hrest hseam)
      (hseam.head hrest ?_ endsText.not_is)
    rintro t ⟨⟩
    exact his
  | case9 t ts hkind | case10 t ts hkind | case11 t ts hkind =>
    cases h
    rw [exchange_cons hrest, skipTypePart_cons]
    simp only [hkind]
  | case12 t ts hkind hminus ih =>
    rw [exchange_cons (hrest.trans (skipTypePart_suffix h)), skipTypePart_cons]
    simp only [hkind]
    rw [if_pos hminus]
    exact ih h
  | case13 => cases h
  | case14 => cases h

theorem skipIndexes_of_head
    (hts : ∀ t ∈ ts.head?, ¬(t.kind = .opening .square ∧ t.newlineBefore = false)) :
    skipIndexes ts = .ok ts := by
  cases ts with
  | nil => rw [skipIndexes]
  | cons t ts => rw [skipIndexes_cons, if_neg (hts t rfl)]

theorem endsText.not_index {t : Terminal} (h : t.endsText) :
    ¬(t.kind = .opening .square ∧ t.newlineBefore = false) := by
  have hne : t.kind ≠ .opening .square := h.kind_ne nofun nofun
  exact fun hindex => hne hindex.1

theorem skipIndexes_exchange {other : List Terminal} (h : skipIndexes ts = .ok after)
    (hrest : rest <:+ after) (hseam : Seam rest other after) :
    skipIndexes (exchange rest other ts) = .ok (exchange rest other after) := by
  fun_induction skipIndexes ts with
  | case1 =>
    cases h
    exact skipIndexes_of_head (hseam.head hrest (by simp) endsText.not_index)
  | case2 => cases h
  | case3 t ts hindex next hgroup ih =>
    have hnext := hrest.trans (skipIndexes_suffix h)
    rw [exchange_cons (hnext.trans (skipGroup_suffix hgroup)), skipIndexes_cons, if_pos hindex,
      skipGroup_exchange hgroup hnext other]
    exact ih h
  | case4 t ts hindex =>
    cases h
    refine skipIndexes_of_head (hseam.head hrest ?_ endsText.not_index)
    rintro t ⟨⟩
    exact hindex

/-- The last part of a type ends where no other one is joined to it. -/
theorem skipTypeParts_of_head {part : List Terminal} (hpart : skipTypePart ts = .ok part)
    (hindexes : skipIndexes part = .ok after)
    (hafter : ∀ t ∈ after.head?, ¬t.isTypeJoin = true) : skipTypeParts ts = .ok after := by
  rw [skipTypeParts_eq, hpart, ok_bind, hindexes, ok_bind]
  cases after with
  | nil => rfl
  | cons t after => exact if_neg (hafter t rfl)

theorem endsText.not_isTypeJoin {t : Terminal} (h : t.endsText) : ¬t.isTypeJoin = true := by
  rcases h.kind with hkind | hkind <;> simp [isTypeJoin, isOperator, hkind]

theorem skipTypeParts_exchange {other : List Terminal} (h : skipTypeParts ts = .ok after)
    (hrest : rest <:+ after) (hseam : Seam rest other after) :
    skipTypeParts (exchange rest other ts) = .ok (exchange rest other after) := by
  fun_induction skipTypeParts ts with
  | case1 => cases h
  | case2 => cases h
  | case3 ts part hpart hindexes =>
    cases h
    have hsuffix := skipIndexes_suffix hindexes
    exact skipTypeParts_of_head
      (skipTypePart_exchange hpart (hrest.trans hsuffix) (hseam.of_suffix hsuffix hrest))
      (skipIndexes_exchange hindexes hrest hseam)
      (hseam.head hrest (by simp) endsText.not_isTypeJoin)
  | case4 ts part hpart t next hindexes hjoin ih =>
    have hnext := hrest.trans (skipTypeParts_suffix h)
    have ht := hnext.trans (List.suffix_cons t next)
    have hsuffix := skipIndexes_suffix hindexes
    have hinner : Seam rest other (t :: next) := .inl (cons_ne_of_suffix hnext t)
    rw [skipTypeParts_eq,
      skipTypePart_exchange hpart (ht.trans hsuffix) (hinner.of_suffix hsuffix ht), ok_bind,
      skipIndexes_exchange hindexes ht hinner, ok_bind, exchange_cons hnext]
    dsimp only
    rw [if_pos hjoin]
    exact ih h
  | case5 ts part hpart t next hindexes hjoin =>
    cases h
    have hsuffix := skipIndexes_suffix hindexes
    refine skipTypeParts_of_head
      (skipTypePart_exchange hpart (hrest.trans hsuffix) (hseam.of_suffix hsuffix hrest))
      (skipIndexes_exchange hindexes hrest hseam) (hseam.head hrest ?_ endsText.not_isTypeJoin)
    rintro t ⟨⟩
    exact hjoin

/-- A part of a type has at least one terminal. -/
theorem skipTypePart_suffix_tail {t : Terminal} (h : skipTypePart (t :: ts) = .ok after) :
    after <:+ ts := by
  rw [skipTypePart_cons] at h
  cases hkind : t.kind with
  | opening bracket =>
    simp only [hkind] at h
    exact skipGroup_suffix h
  | less =>
    simp only [hkind] at h
    obtain ⟨middle, hangles, h⟩ := bind_eq_ok_iff.1 h
    exact (skipOptionalGroup_suffix h).trans (skipAngles_suffix hangles)
  | word =>
    simp only [hkind] at h
    split at h
    · exact skipTypePart_suffix h
    · obtain ⟨middle, hname, h⟩ := bind_eq_ok_iff.1 h
      have hmiddle := skipTypeName_suffix hname
      cases middle with
      | nil =>
        cases h
        exact List.nil_suffix
      | cons word middle =>
        dsimp only at h
        split at h
        · exact ((skipTypePart_suffix h).trans (List.suffix_cons word middle)).trans hmiddle
        · cases h
          exact hmiddle
  | string | number | template =>
    simp only [hkind] at h
    cases h
    exact List.suffix_rfl
  | operator =>
    simp only [hkind] at h
    split at h
    · exact skipTypePart_suffix h
    · cases h
  | _ =>
    simp only [hkind] at h
    cases h

theorem skipTypeParts_suffix_tail {t : Terminal} (h : skipTypeParts (t :: ts) = .ok after) :
    after <:+ ts := by
  rw [skipTypeParts_eq] at h
  obtain ⟨part, hpart, h⟩ := bind_eq_ok_iff.1 h
  obtain ⟨middle, hindexes, h⟩ := bind_eq_ok_iff.1 h
  have hmiddle := (skipIndexes_suffix hindexes).trans (skipTypePart_suffix_tail hpart)
  cases middle with
  | nil =>
    cases h
    exact List.nil_suffix
  | cons join middle =>
    dsimp only at h
    split at h
    · exact ((skipTypeParts_suffix h).trans (List.suffix_cons join middle)).trans hmiddle
    · cases h
      exact hmiddle

/-- A type has at least one terminal. -/
theorem skipType_suffix_tail (h : skipType ts = .ok after) :
    ∃ t more, ts = t :: more ∧ after <:+ more := by
  cases ts with
  | nil =>
    rw [skipType, skipTypeParts_eq, skipTypePart] at h
    cases h
  | cons t more =>
    refine ⟨t, more, rfl, ?_⟩
    rw [skipType] at h
    split at h
    · exact skipTypeParts_suffix h
    · exact skipTypeParts_suffix_tail h

theorem skipType_exchange {other : List Terminal} (h : skipType ts = .ok after)
    (hrest : rest <:+ after) (hseam : Seam rest other after) :
    skipType (exchange rest other ts) = .ok (exchange rest other after) := by
  obtain ⟨t, more, rfl, hafter⟩ := skipType_suffix_tail h
  have hmore := hrest.trans hafter
  rw [exchange_cons hmore]
  rw [skipType] at h ⊢
  split
  · rename_i hjoin
    rw [if_pos hjoin] at h
    exact skipTypeParts_exchange h hrest hseam
  · rename_i hjoin
    rw [if_neg hjoin] at h
    rw [← exchange_cons hmore]
    exact skipTypeParts_exchange h hrest hseam

end ComponentDocs.Declaration
