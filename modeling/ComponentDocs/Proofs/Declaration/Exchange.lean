import ComponentDocs.Proofs.Declaration.Argument
import ComponentDocs.Proofs.Declaration.Equations

/-!
# Parsing before another rest

A parser looks at what it takes up and at the terminal where it stops.  So what stands behind can
be exchanged: `exchange rest other ts` is the place `ts` with `other` instead of its end `rest`,
and a parser that stops at `after` before the exchange stops at `exchange rest other after`
behind it, with the same value.

If a parser stops exactly at `rest`, then `other` must not make it go on (`Seam`).  The parsers
that end by taking up a closing bracket are an exception, and so are those that stop before a
comma or a bracket, which stands before `rest` anyway.
-/

namespace ComponentDocs

namespace Terminal

/-- The place with `other` instead of its end `rest`. -/
def exchange (rest other ts : List Terminal) : List Terminal :=
  ts.take (ts.length - rest.length) ++ other

variable {rest other ts after : List Terminal}

@[simp] theorem exchange_append (rest other taken : List Terminal) :
    exchange rest other (taken ++ rest) = taken ++ other := by
  simp [exchange]

@[simp] theorem exchange_self (rest other : List Terminal) : exchange rest other rest = other := by
  simp [exchange]

@[simp] theorem exchange_nil (other ts : List Terminal) : exchange [] other ts = ts ++ other := by
  simp [exchange]

theorem exchange_cons (h : rest <:+ ts) (other : List Terminal) (t : Terminal) :
    exchange rest other (t :: ts) = t :: exchange rest other ts := by
  obtain ⟨taken, rfl⟩ := h
  rw [← List.cons_append, exchange_append, exchange_append, List.cons_append]

theorem exchange_rest (h : rest <:+ ts) : exchange rest rest ts = ts := by
  obtain ⟨taken, rfl⟩ := h
  exact exchange_append rest rest taken

/-- The text between two places stays the same when the end of both is exchanged. -/
theorem capture_exchange {before : List Terminal} (hafter : after <:+ before)
    (hrest : rest <:+ after) (other : List Terminal) :
    capture (exchange rest other before) (exchange rest other after) = capture before after := by
  obtain ⟨taken, rfl⟩ := hrest
  obtain ⟨text, rfl⟩ := hafter
  rw [← List.append_assoc, exchange_append, exchange_append, List.append_assoc, List.append_assoc]
  simp [capture]

/-- A place that goes on before `rest` begins with a terminal that is not exchanged. -/
theorem exists_cons_of_ne (hrest : rest <:+ after) (hne : after ≠ rest) :
    ∃ t more, after = t :: more ∧ rest <:+ more := by
  cases after with
  | nil => exact absurd (List.suffix_nil.1 hrest).symm hne
  | cons t more =>
    rcases List.suffix_cons_iff.1 hrest with heq | hmore
    · exact absurd heq.symm hne
    · exact ⟨t, more, rfl, hmore⟩

theorem tail_suffix {t u : Terminal} (h : u :: after <:+ t :: ts) : after <:+ ts := by
  rcases List.suffix_cons_iff.1 h with heq | hsuffix
  · obtain ⟨rfl, rfl⟩ := List.cons.inj heq
    exact List.suffix_rfl
  · exact (List.suffix_cons u after).trans hsuffix

theorem cons_ne_of_suffix (hrest : rest <:+ ts) (t : Terminal) : t :: ts ≠ rest := by
  rintro rfl
  exact absurd hrest.length_le (Nat.not_succ_le_self _)

/-- An end that lies before `rest` is not `rest` itself. -/
theorem ne_of_suffix (hsuffix : after <:+ ts) (hrest : rest <:+ after) (hne : after ≠ rest) :
    ts ≠ rest := by
  rintro rfl
  exact hne (hsuffix.eq_of_length (Nat.le_antisymm hsuffix.length_le hrest.length_le))

/-- A terminal that continues neither a decorator nor a type. -/
def endsText (t : Terminal) : Prop :=
  t.kind = .semicolon ∨ t.isWord "class" = true

/-- What ends at `after` ends there with `other` instead of `rest` too: the terminal at `after`
stays the same, or the first one of `other` continues nothing. -/
def Seam (rest other after : List Terminal) : Prop :=
  after ≠ rest ∨ ∃ t more, other = t :: more ∧ t.endsText

theorem Seam.of_suffix (h : Seam rest other after) (hsuffix : after <:+ ts)
    (hrest : rest <:+ after) : Seam rest other ts :=
  h.imp_left (ne_of_suffix hsuffix hrest)

/-- What holds of the terminal at `after`, and of each that continues nothing, holds of the
terminal at the place after the exchange. -/
theorem Seam.head (h : Seam rest other after) (hrest : rest <:+ after) {P : Terminal → Prop}
    (hafter : ∀ t ∈ after.head?, P t) (hends : ∀ {t : Terminal}, t.endsText → P t) :
    ∀ t ∈ (exchange rest other after).head?, P t := by
  intro t ht
  by_cases hne : after = rest
  · obtain ⟨u, more, rfl, hu⟩ := h.resolve_left (not_not_intro hne)
    rw [hne, exchange_self] at ht
    cases ht
    exact hends hu
  · obtain ⟨u, more, rfl, hmore⟩ := exists_cons_of_ne hrest hne
    rw [exchange_cons hmore] at ht
    exact hafter t ht

theorem endsText.kind {t : Terminal} (h : t.endsText) : t.kind = .semicolon ∨ t.kind = .word :=
  h.imp_right fun hword => beq_iff_eq.1 (Bool.and_eq_true_iff.1 hword).1

theorem endsText.kind_ne {t : Terminal} (h : t.endsText) {kind : Token.Kind}
    (hsemicolon : kind ≠ .semicolon) (hword : kind ≠ .word) : t.kind ≠ kind := by
  rcases h.kind with hkind | hkind <;> rw [hkind]
  · exact hsemicolon.symm
  · exact hword.symm

end Terminal

namespace Declaration

open Terminal

variable {rest ts after : List Terminal}

/-! ## Groups -/

/-- The opening bracket shows in faults only. -/
theorem closeBrackets_exchange {opener opener' : Terminal} {awaited : List Bracket}
    (h : closeBrackets opener awaited ts = .ok after) (hrest : rest <:+ after)
    (other : List Terminal) :
    closeBrackets opener' awaited (exchange rest other ts) = .ok (exchange rest other after) := by
  fun_induction closeBrackets opener awaited ts with
  | case1 ts =>
    cases h
    rw [closeBrackets]
  | case2 => cases h
  | case3 awaited outer t ts bracket hkind ih =>
    rw [exchange_cons (hrest.trans (closeBrackets_suffix h)), closeBrackets]
    simp only [hkind]
    exact ih h
  | case4 outer t ts bracket hkind ih =>
    rw [exchange_cons (hrest.trans (closeBrackets_suffix h)), closeBrackets]
    simp only [hkind, if_true]
    exact ih h
  | case5 => cases h
  | case6 awaited outer t ts hopening hclosing ih =>
    rw [exchange_cons (hrest.trans (closeBrackets_suffix h)), closeBrackets]
    split
    · rename_i hkind; exact absurd hkind (hopening _)
    · rename_i hkind; exact absurd hkind (hclosing _)
    · exact ih h

theorem skipGroup_exchange {opener opener' : Terminal} {bracket : Bracket}
    (h : skipGroup opener bracket ts = .ok after) (hrest : rest <:+ after)
    (other : List Terminal) :
    skipGroup opener' bracket (exchange rest other ts) = .ok (exchange rest other after) :=
  closeBrackets_exchange h hrest other

theorem skipGroup_opener {opener : Terminal} {bracket : Bracket}
    (h : skipGroup opener bracket ts = .ok after) (opener' : Terminal) :
    skipGroup opener' bracket ts = .ok after := by
  have hsame := @skipGroup_exchange after ts after opener opener' bracket h List.suffix_rfl after
  rwa [exchange_rest (skipGroup_suffix h), exchange_self] at hsame

theorem skipItem_exchange {t : Terminal} (h : skipItem t ts = .ok after) (hrest : rest <:+ after)
    (other : List Terminal) :
    skipItem t (exchange rest other ts) = .ok (exchange rest other after) := by
  unfold skipItem at h ⊢
  split at h
  · exact skipGroup_exchange h hrest other
  · cases h
    rfl

theorem closeAngles_exchange {opener opener' : Terminal} {depth : Nat}
    (h : closeAngles opener depth ts = .ok after) (hrest : rest <:+ after)
    (other : List Terminal) :
    closeAngles opener' depth (exchange rest other ts) = .ok (exchange rest other after) := by
  fun_induction closeAngles opener depth ts with
  | case1 ts =>
    cases h
    rw [closeAngles]
  | case2 => cases h
  | case3 depth t ts hless ih =>
    rw [exchange_cons (hrest.trans (closeAngles_suffix h)), closeAngles_cons, if_pos hless]
    exact ih h
  | case4 depth t ts hless hgreater ih =>
    rw [exchange_cons (hrest.trans (closeAngles_suffix h)), closeAngles_cons, if_neg hless,
      if_pos hgreater]
    exact ih h
  | case5 => cases h
  | case6 => cases h
  | case7 depth t ts hless hgreater hend next hitem ih =>
    have hnext := hrest.trans (closeAngles_suffix h)
    rw [exchange_cons (hnext.trans (skipItem_suffix hitem)), closeAngles_cons, if_neg hless,
      if_neg hgreater, if_neg hend, skipItem_exchange hitem hnext other]
    exact ih h

theorem skipAngles_exchange {opener opener' : Terminal} (h : skipAngles opener ts = .ok after)
    (hrest : rest <:+ after) (other : List Terminal) :
    skipAngles opener' (exchange rest other ts) = .ok (exchange rest other after) :=
  closeAngles_exchange h hrest other

theorem skipAngles_opener {opener : Terminal} (h : skipAngles opener ts = .ok after)
    (opener' : Terminal) : skipAngles opener' ts = .ok after := by
  have hsame := @skipAngles_exchange after ts after opener opener' h List.suffix_rfl after
  rwa [exchange_rest (skipAngles_suffix h), exchange_self] at hsame

/-! ## Arguments and decorators -/

theorem skipExpression_exchange (h : skipExpression ts = .ok after) (hrest : rest <:+ after)
    (hne : after ≠ rest) (other : List Terminal) :
    skipExpression (exchange rest other ts) = .ok (exchange rest other after) := by
  fun_induction skipExpression ts with
  | case1 =>
    cases h
    exact absurd (List.suffix_nil.1 hrest).symm hne
  | case2 t ts hend =>
    cases h
    obtain ⟨_, _, ⟨⟩, hmore⟩ := exists_cons_of_ne hrest hne
    rw [exchange_cons hmore, skipExpression_cons, if_pos hend]
  | case3 => cases h
  | case4 t ts hend next hitem ih =>
    have hnext := hrest.trans (skipExpression_suffix h)
    rw [exchange_cons (hnext.trans (skipItem_suffix hitem)), skipExpression_cons, if_neg hend,
      skipItem_exchange hitem hnext other]
    exact ih h

theorem atItemEnd_exchange (hrest : rest <:+ ts) (hne : ts ≠ rest) (other : List Terminal) :
    atItemEnd (exchange rest other ts) = atItemEnd ts := by
  obtain ⟨t, more, rfl, hmore⟩ := exists_cons_of_ne hrest hne
  rw [exchange_cons hmore]
  rfl

theorem startsWith_exchange (kind : Token.Kind) (hrest : rest <:+ ts) (hne : ts ≠ rest)
    (other : List Terminal) : startsWith kind (exchange rest other ts) = startsWith kind ts := by
  obtain ⟨t, more, rfl, hmore⟩ := exists_cons_of_ne hrest hne
  rw [exchange_cons hmore]
  rfl

theorem parseOther_exchange {before : List Terminal} {expr : Expr} (hbefore : ts <:+ before)
    (h : parseOther before ts = .ok (expr, after)) (hrest : rest <:+ after) (hne : after ≠ rest)
    (other : List Terminal) :
    parseOther (exchange rest other before) (exchange rest other ts) =
      .ok (expr, exchange rest other after) := by
  obtain ⟨final, hskip, h⟩ := bind_eq_ok_iff.1 h
  cases h
  rw [parseOther, skipExpression_exchange hskip hrest hne other, ok_bind,
    capture_exchange ((skipExpression_suffix hskip).trans hbefore) hrest]
  rfl

theorem parseRest_suffix {before : List Terminal} {expr found : Expr}
    (h : parseRest before expr ts = .ok (found, after)) : after <:+ ts := by
  rw [parseRest] at h
  split at h
  · cases h
    exact List.suffix_rfl
  · obtain ⟨final, hskip, h⟩ := bind_eq_ok_iff.1 h
    cases h
    exact skipExpression_suffix hskip

theorem parseRest_exchange {before : List Terminal} {expr found : Expr} (hbefore : ts <:+ before)
    (h : parseRest before expr ts = .ok (found, after)) (hrest : rest <:+ after)
    (hne : after ≠ rest) (other : List Terminal) :
    parseRest (exchange rest other before) expr (exchange rest other ts) =
      .ok (found, exchange rest other after) := by
  have hsuffix := parseRest_suffix h
  rw [parseRest] at h ⊢
  rw [atItemEnd_exchange (hrest.trans hsuffix) (ne_of_suffix hsuffix hrest hne)]
  split
  · rename_i hend
    rw [if_pos hend] at h
    cases h
    rfl
  · rename_i hend
    rw [if_neg hend] at h
    exact parseOther_exchange hbefore h hrest hne other

/-- Behind an item a comma or the closing bracket is taken up. -/
theorem parseMore_suffix {α : Type} {bracket : Bracket}
    {others : List Terminal → Except Fault (List α × List Terminal)} {item : Option α}
    {items : List α} (h : parseMore bracket others item ts = .ok (items, after))
    (hothers : ∀ found final, others ts.tail = .ok (found, final) → final <:+ ts.tail) :
    ∃ u more, ts = u :: more ∧ after <:+ more := by
  cases ts with
  | nil => cases h
  | cons u more =>
    refine ⟨u, more, rfl, ?_⟩
    rw [parseMore] at h
    split at h
    · obtain ⟨⟨found, final⟩, hfound, h⟩ := bind_eq_ok_iff.1 h
      cases h
      exact hothers _ _ hfound
    · split at h <;> cases h
      exact List.suffix_rfl

theorem parseMore_exchange {α : Type} {bracket : Bracket}
    {others : List Terminal → Except Fault (List α × List Terminal)} {item : Option α}
    {items : List α} {u : Terminal}
    (h : parseMore bracket others item (u :: ts) = .ok (items, after)) (hts : rest <:+ ts)
    {other : List Terminal}
    (hothers : ∀ found, others ts = .ok (found, after) →
      others (exchange rest other ts) = .ok (found, exchange rest other after)) :
    parseMore bracket others item (exchange rest other (u :: ts)) =
      .ok (items, exchange rest other after) := by
  rw [exchange_cons hts]
  rw [parseMore] at h ⊢
  by_cases hcomma : u.kind = .comma
  · rw [if_pos hcomma] at h ⊢
    obtain ⟨⟨found, final⟩, hfound, h⟩ := bind_eq_ok_iff.1 h
    cases h
    rw [hothers _ hfound]
    rfl
  · rw [if_neg hcomma] at h ⊢
    by_cases hclosing : u.kind = .closing bracket
    · rw [if_pos hclosing] at h ⊢
      cases h
      rfl
    · rw [if_neg hclosing] at h
      cases h

mutual

theorem parseExpr_exchange {rest ts after : List Terminal} {expr : Expr}
    (h : parseExpr ts = .ok (expr, after)) (hrest : rest <:+ after) (hne : after ≠ rest)
    (other : List Terminal) :
    parseExpr (exchange rest other ts) = .ok (expr, exchange rest other after) := by
  cases ts with
  | nil =>
    rw [parseExpr_nil] at h
    cases h
    exact absurd (List.suffix_nil.1 hrest).symm hne
  | cons t ts =>
    obtain ⟨_, _, ⟨⟩, hts⟩ := exists_cons_of_ne (hrest.trans (outcome_suffix h))
      (ne_of_suffix (outcome_suffix h) hrest hne)
    have hwhole := exchange_cons hts other t
    rw [hwhole, parseExpr_cons]
    rw [parseExpr_cons] at h
    rw [← hwhole]
    generalize t.kind = kind at h ⊢
    cases kind with
    | opening bracket =>
      cases bracket with
      | brace =>
        obtain ⟨⟨entries, afterEntries⟩, hentries, h⟩ := bind_eq_ok_iff.1 h
        have hsuffix : afterEntries <:+ ts := outcome_suffix hentries
        have hafter := hrest.trans (parseRest_suffix h)
        dsimp only
        rw [parseEntries_exchange hentries hafter other]
        exact parseRest_exchange (hsuffix.trans (List.suffix_cons t ts)) h hrest hne other
      | square =>
        obtain ⟨⟨items, afterItems⟩, hitems, h⟩ := bind_eq_ok_iff.1 h
        have hsuffix : afterItems <:+ ts := outcome_suffix hitems
        have hafter := hrest.trans (parseRest_suffix h)
        dsimp only
        rw [parseItems_exchange hitems hafter other]
        exact parseRest_exchange (hsuffix.trans (List.suffix_cons t ts)) h hrest hne other
      | paren => exact parseOther_exchange List.suffix_rfl h hrest hne other
    | string => exact parseRest_exchange (List.suffix_cons t ts) h hrest hne other
    | template =>
      dsimp only at h ⊢
      split
      · rename_i hsubstitution
        rw [if_pos hsubstitution] at h
        exact parseOther_exchange List.suffix_rfl h hrest hne other
      · rename_i hsubstitution
        rw [if_neg hsubstitution] at h
        exact parseRest_exchange (List.suffix_cons t ts) h hrest hne other
    | word => exact parseRest_exchange (List.suffix_cons t ts) h hrest hne other
    | _ => exact parseOther_exchange List.suffix_rfl h hrest hne other
termination_by 3 * ts.length

theorem parseItem_exchange {bracket : Bracket} {rest ts after : List Terminal} {item : Option Expr}
    (h : parseItem bracket ts = .ok (item, after)) (hrest : rest <:+ after) (hne : after ≠ rest)
    (other : List Terminal) :
    parseItem bracket (exchange rest other ts) = .ok (item, exchange rest other after) := by
  have hsuffix := outcome_suffix h
  rw [parseItem_eq] at h ⊢
  rw [startsWith_exchange .ellipsis (hrest.trans hsuffix) (ne_of_suffix hsuffix hrest hne)]
  split
  · rename_i hspread
    rw [if_pos hspread] at h
    obtain ⟨final, hskip, h⟩ := map_eq_ok_iff.1 h
    cases h
    rw [skipExpression_exchange hskip hrest hne other]
    rfl
  · rename_i hspread
    rw [if_neg hspread] at h
    obtain ⟨⟨expr, final⟩, hexpr, h⟩ := map_eq_ok_iff.1 h
    cases h
    rw [parseExpr_exchange hexpr hrest hne other]
    rfl
termination_by 3 * ts.length + 1

theorem parseItems_exchange {bracket : Bracket} {opener : Terminal} {rest ts after : List Terminal}
    {items : List Expr} (h : parseItems bracket opener ts = .ok (items, after))
    (hrest : rest <:+ after) (other : List Terminal) :
    parseItems bracket opener (exchange rest other ts) =
      .ok (items, exchange rest other after) := by
  cases ts with
  | nil =>
    rw [parseItems_nil] at h
    cases h
  | cons t ts =>
    rw [parseItems_cons] at h
    by_cases hclosing : t.kind = .closing bracket
    · rw [if_pos hclosing] at h
      cases h
      rw [exchange_cons hrest, parseItems_cons, if_pos hclosing]
    · rw [if_neg hclosing] at h
      obtain ⟨⟨item, afterItem⟩, hitem, h⟩ := bind_eq_ok_iff.1 h
      obtain ⟨u, more, rfl, hafter⟩ := parseMore_suffix h fun _ _ hfound => outcome_suffix hfound
      have hmore := hrest.trans hafter
      have hsuffix : more <:+ ts := tail_suffix (outcome_suffix hitem)
      have hle := hsuffix.length_le
      have hitem' := parseItem_exchange hitem (hmore.trans (List.suffix_cons u more))
        (cons_ne_of_suffix hmore u) other
      rw [exchange_cons (hmore.trans hsuffix)] at hitem' ⊢
      rw [parseItems_cons, if_neg hclosing, hitem', ok_bind]
      exact parseMore_exchange h hmore fun found hfound => parseItems_exchange hfound hrest other
termination_by 3 * ts.length + 2
decreasing_by
  all_goals
    subst_vars
    simp only [List.length_cons]
    omega

theorem parseEntry_exchange {rest ts after : List Terminal} {entry : Option (String × Expr)}
    (h : parseEntry ts = .ok (entry, after)) (hrest : rest <:+ after) (hne : after ≠ rest)
    (other : List Terminal) :
    parseEntry (exchange rest other ts) = .ok (entry, exchange rest other after) := by
  cases ts with
  | nil =>
    rw [parseEntry_nil] at h
    cases h
    exact absurd (List.suffix_nil.1 hrest).symm hne
  | cons t ts =>
    obtain ⟨_, _, ⟨⟩, hts⟩ := exists_cons_of_ne (hrest.trans (outcome_suffix h))
      (ne_of_suffix (outcome_suffix h) hrest hne)
    have hwhole := exchange_cons hts other t
    rw [hwhole, parseEntry_cons, ← hwhole]
    rw [parseEntry_cons] at h
    cases hkey : entryKey? t with
    | none =>
      simp only [hkey] at h ⊢
      obtain ⟨final, hskip, h⟩ := map_eq_ok_iff.1 h
      cases h
      rw [skipExpression_exchange hskip hrest hne other]
      rfl
    | some key =>
      simp only [hkey] at h ⊢
      cases ts with
      | nil =>
        cases h
        exact absurd (List.suffix_nil.1 hrest).symm hne
      | cons u ts =>
        dsimp only at h
        by_cases hcolon : u.kind = .colon
        · rw [if_pos hcolon] at h
          obtain ⟨⟨expr, final⟩, hexpr, h⟩ := map_eq_ok_iff.1 h
          cases h
          rw [exchange_cons (hrest.trans (outcome_suffix hexpr))]
          dsimp only
          rw [if_pos hcolon, parseExpr_exchange hexpr hrest hne other]
          rfl
        · rw [if_neg hcolon] at h
          by_cases hname : u.kind = .comma ∨ u.kind = .closing .brace
          · rw [if_pos hname] at h
            cases h
            obtain ⟨_, _, ⟨⟩, hmore⟩ := exists_cons_of_ne hrest hne
            rw [exchange_cons hmore]
            dsimp only
            rw [if_neg hcolon, if_pos hname]
          · rw [if_neg hname] at h
            obtain ⟨final, hskip, h⟩ := map_eq_ok_iff.1 h
            cases h
            have hsuffix := skipExpression_suffix hskip
            obtain ⟨_, _, ⟨⟩, hmore⟩ := exists_cons_of_ne (hrest.trans hsuffix)
              (ne_of_suffix hsuffix hrest hne)
            have hskip' := skipExpression_exchange hskip hrest hne other
            rw [exchange_cons hmore] at hskip' ⊢
            dsimp only
            rw [if_neg hcolon, if_neg hname, hskip']
            rfl
termination_by 3 * ts.length + 1

theorem parseEntries_exchange {opener : Terminal} {rest ts after : List Terminal}
    {entries : List (String × Expr)} (h : parseEntries opener ts = .ok (entries, after))
    (hrest : rest <:+ after) (other : List Terminal) :
    parseEntries opener (exchange rest other ts) =
      .ok (entries, exchange rest other after) := by
  cases ts with
  | nil =>
    rw [parseEntries_nil] at h
    cases h
  | cons t ts =>
    rw [parseEntries_cons] at h
    by_cases hclosing : t.kind = .closing .brace
    · rw [if_pos hclosing] at h
      cases h
      rw [exchange_cons hrest, parseEntries_cons, if_pos hclosing]
    · rw [if_neg hclosing] at h
      obtain ⟨⟨entry, afterEntry⟩, hentry, h⟩ := bind_eq_ok_iff.1 h
      obtain ⟨u, more, rfl, hafter⟩ := parseMore_suffix h fun _ _ hfound => outcome_suffix hfound
      have hmore := hrest.trans hafter
      have hsuffix : more <:+ ts := tail_suffix (outcome_suffix hentry)
      have hle := hsuffix.length_le
      have hentry' := parseEntry_exchange hentry (hmore.trans (List.suffix_cons u more))
        (cons_ne_of_suffix hmore u) other
      rw [exchange_cons (hmore.trans hsuffix)] at hentry' ⊢
      rw [parseEntries_cons, if_neg hclosing, hentry', ok_bind]
      exact parseMore_exchange h hmore fun found hfound => parseEntries_exchange hfound hrest other
termination_by 3 * ts.length + 2
decreasing_by
  all_goals
    subst_vars
    simp only [List.length_cons]
    omega

end

theorem parseDecoratorName_of_head {name : Terminal} (hname : name.kind = .word)
    (hts : ∀ t ∈ ts.head?, t.kind ≠ .dot) :
    parseDecoratorName (name :: ts) = .ok (name.text, ts) := by
  rw [parseDecoratorName_cons, if_pos hname]
  cases ts with
  | nil => rfl
  | cons t ts => exact if_neg (hts t rfl)

theorem parseDecoratorName_exchange {name : String} {other : List Terminal}
    (h : parseDecoratorName ts = .ok (name, after)) (hrest : rest <:+ after)
    (hseam : Seam rest other after) :
    parseDecoratorName (exchange rest other ts) = .ok (name, exchange rest other after) := by
  fun_induction parseDecoratorName ts with
  | case1 => cases h
  | case2 first hword =>
    cases h
    rw [exchange_cons hrest]
    exact parseDecoratorName_of_head hword
      (hseam.head hrest (by simp) fun hends => hends.kind_ne (by decide) (by decide))
  | case3 first hword dot ts hdot ih =>
    have hts := hrest.trans (parseDecoratorName_suffix h)
    rw [exchange_cons (hts.trans (List.suffix_cons dot ts)), exchange_cons hts,
      parseDecoratorName_cons, if_pos hword]
    dsimp only
    rw [if_pos hdot]
    exact ih h
  | case4 first hword dot ts hdot =>
    cases h
    rw [exchange_cons hrest]
    refine parseDecoratorName_of_head hword
      (hseam.head hrest ?_ fun hends => hends.kind_ne (by decide) (by decide))
    rintro t ⟨⟩
    exact hdot
  | case5 => cases h

theorem parseOptionalArguments_of_head (hts : ∀ t ∈ ts.head?, t.kind ≠ .opening .paren) :
    parseOptionalArguments ts = .ok ([], ts) := by
  cases ts with
  | nil => rfl
  | cons t ts => exact if_neg (hts t rfl)

theorem parseOptionalArguments_exchange {arguments : List Expr} {other : List Terminal}
    (h : parseOptionalArguments ts = .ok (arguments, after)) (hrest : rest <:+ after)
    (hseam : Seam rest other after) :
    parseOptionalArguments (exchange rest other ts) =
      .ok (arguments, exchange rest other after) := by
  by_cases hparen : ∀ t ∈ ts.head?, t.kind ≠ .opening .paren
  · rw [parseOptionalArguments_of_head hparen] at h
    cases h
    exact parseOptionalArguments_of_head
      (hseam.head hrest hparen fun hends => hends.kind_ne (by decide) (by decide))
  · cases ts with
    | nil => simp at hparen
    | cons t ts =>
      have hopen : t.kind = .opening .paren := by simpa using hparen
      rw [parseOptionalArguments, if_pos hopen, parseArguments_eq] at h
      rw [exchange_cons (hrest.trans (outcome_suffix h)), parseOptionalArguments, if_pos hopen,
        parseArguments_eq]
      exact parseItems_exchange h hrest other

theorem parseDecorator_exchange {sign : Terminal} {decorator : Decorator} {other : List Terminal}
    (h : parseDecorator sign ts = .ok (decorator, after)) (hrest : rest <:+ after)
    (hseam : Seam rest other after) :
    parseDecorator sign (exchange rest other ts) =
      .ok (decorator, exchange rest other after) := by
  have hsuffix := parseDecorator_suffix h
  obtain ⟨⟨name, afterName⟩, hname, h⟩ := bind_eq_ok_iff.1 h
  obtain ⟨⟨arguments, final⟩, harguments, h⟩ := bind_eq_ok_iff.1 h
  cases h
  have harguments' := parseOptionalArguments_suffix harguments
  rw [parseDecorator, parseDecoratorName_exchange hname (hrest.trans harguments')
    (hseam.of_suffix harguments' hrest)]
  dsimp only [ok_bind]
  rw [parseOptionalArguments_exchange harguments hrest hseam]
  dsimp only [ok_bind]
  rw [← exchange_cons (hrest.trans hsuffix),
    capture_exchange (hsuffix.trans (List.suffix_cons sign ts)) hrest]
  rfl

end Declaration

end ComponentDocs
