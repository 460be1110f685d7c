import ComponentDocs.Proofs.Declaration.AppendClass

/-!
# Statement boundaries

Behind a semicolon or a closing brace at the end of a line nothing is left open: the declarations
of a text that ends there do not depend on what follows (`value_parseDeclarations_append`).

Elsewhere a parser may take up everything up to the end of the file and would go on if more were
there, as in `export` or `let x`.  The last terminal such a parser has taken up is then a word or
another bracket.  So the first group of lemmas names the terminal directly before the place where
a parser stops.
-/

namespace ComponentDocs.Declaration

open Terminal

variable {ts after : List Terminal}

/-! ## The terminal before a place -/

theorem closeBrackets_closer {opener : Terminal} {awaited : List Bracket} {outermost : Bracket}
    (hlast : awaited.getLast? = some outermost)
    (h : closeBrackets opener awaited ts = .ok after) :
    ∃ closer, closer.kind = .closing outermost ∧ closer :: after <:+ ts := by
  fun_induction closeBrackets opener awaited ts with
  | case1 => cases hlast
  | case2 => cases h
  | case3 awaited outer t rest bracket _ ih =>
    rw [List.getLast?_cons_cons] at ih
    obtain ⟨closer, hkind, hsuffix⟩ := ih hlast h
    exact ⟨closer, hkind, hsuffix.trans (List.suffix_cons t rest)⟩
  | case4 outer t rest bracket hclosing ih =>
    cases outer with
    | nil =>
      rw [closeBrackets] at h
      cases h
      cases hlast
      exact ⟨t, hclosing, List.suffix_rfl⟩
    | cons next outer =>
      rw [List.getLast?_cons_cons] at hlast
      obtain ⟨closer, hkind, hsuffix⟩ := ih hlast h
      exact ⟨closer, hkind, hsuffix.trans (List.suffix_cons t rest)⟩
  | case5 => cases h
  | case6 awaited outer t rest _ _ ih =>
    obtain ⟨closer, hkind, hsuffix⟩ := ih hlast h
    exact ⟨closer, hkind, hsuffix.trans (List.suffix_cons t rest)⟩

/-- A group ends with the bracket that fits its opening one. -/
theorem skipGroup_closer {opener : Terminal} {bracket : Bracket}
    (h : skipGroup opener bracket ts = .ok after) :
    ∃ closer, closer.kind = .closing bracket ∧ closer :: after <:+ ts :=
  closeBrackets_closer rfl h

/-- A list of arguments ends with its closing bracket. -/
theorem parseItems_closer {bracket : Bracket} {opener : Terminal} {ts after : List Terminal}
    {items : List Expr} (h : parseItems bracket opener ts = .ok (items, after)) :
    ∃ closer, closer.kind = .closing bracket ∧ closer :: after <:+ ts := by
  cases ts with
  | nil =>
    rw [parseItems_nil] at h
    cases h
  | cons t rest =>
    rw [parseItems_cons] at h
    by_cases hclosing : t.kind = .closing bracket
    · rw [if_pos hclosing] at h
      cases h
      exact ⟨t, hclosing, List.suffix_rfl⟩
    · rw [if_neg hclosing] at h
      obtain ⟨⟨item, afterItem⟩, hitem, h⟩ := bind_eq_ok_iff.1 h
      have hsuffix : afterItem <:+ t :: rest := outcome_suffix hitem
      cases afterItem with
      | nil => cases h
      | cons u more =>
        dsimp only [parseMore] at h
        by_cases hcomma : u.kind = .comma
        · rw [if_pos hcomma] at h
          obtain ⟨⟨others, final⟩, hothers, h⟩ := bind_eq_ok_iff.1 h
          cases h
          have hshorter : more.length < rest.length + 1 := hsuffix.length_le
          obtain ⟨closer, hkind, hcloser⟩ := parseItems_closer hothers
          exact ⟨closer, hkind, (hcloser.trans (List.suffix_cons u more)).trans hsuffix⟩
        · rw [if_neg hcomma] at h
          by_cases hend : u.kind = .closing bracket
          · rw [if_pos hend] at h
            cases h
            exact ⟨u, hend, hsuffix⟩
          · rw [if_neg hend] at h
            cases h
termination_by ts.length

/-- A terminal that ends neither a statement nor a class. -/
def isOpenEnd (t : Terminal) : Prop :=
  t.kind = .word ∨ t.kind = .closing .paren

theorem parseDecoratorName_last {name : String} (h : parseDecoratorName ts = .ok (name, after)) :
    ∃ last, isOpenEnd last ∧ last :: after <:+ ts := by
  fun_induction parseDecoratorName ts with
  | case1 => cases h
  | case2 first hword =>
    cases h
    exact ⟨first, .inl hword, List.suffix_rfl⟩
  | case3 first _ dot rest _ ih =>
    obtain ⟨last, hlast, hsuffix⟩ := ih h
    exact ⟨last, hlast, (hsuffix.trans (List.suffix_cons dot rest)).trans (List.suffix_cons first _)⟩
  | case4 first hword =>
    cases h
    exact ⟨first, .inl hword, List.suffix_rfl⟩
  | case5 => cases h

theorem parseDecorator_last {sign : Terminal} {decorator : Decorator}
    (h : parseDecorator sign ts = .ok (decorator, after)) :
    ∃ last, isOpenEnd last ∧ last :: after <:+ ts := by
  obtain ⟨⟨name, afterName⟩, hname, h⟩ := bind_eq_ok_iff.1 h
  obtain ⟨⟨arguments, final⟩, harguments, h⟩ := bind_eq_ok_iff.1 h
  cases h
  have hnameLast := parseDecoratorName_last hname
  cases afterName with
  | nil =>
    cases harguments
    exact hnameLast
  | cons t rest =>
    rw [parseOptionalArguments] at harguments
    by_cases hparen : t.kind = .opening .paren
    · rw [if_pos hparen, parseArguments_eq] at harguments
      obtain ⟨closer, hkind, hsuffix⟩ := parseItems_closer harguments
      exact ⟨closer, .inr hkind,
        (hsuffix.trans (List.suffix_cons t rest)).trans (parseDecoratorName_suffix hname)⟩
    · rw [if_neg hparen] at harguments
      cases harguments
      exact hnameLast

theorem parseDecorators_last {decorators : List Decorator}
    (h : parseDecorators ts = .ok (decorators, after)) :
    after = ts ∨ ∃ last, isOpenEnd last ∧ last :: after <:+ ts := by
  fun_induction parseDecorators ts generalizing decorators with
  | case1 => cases h; exact .inl rfl
  | case2 => cases h
  | case3 => cases h
  | case4 t rest _ decorator next hdecorator others final hothers ih =>
    cases h
    refine .inr ?_
    rcases ih hothers with rfl | ⟨last, hlast, hsuffix⟩
    · obtain ⟨last, hlast, hsuffix⟩ := parseDecorator_last hdecorator
      exact ⟨last, hlast, hsuffix.trans (List.suffix_cons t rest)⟩
    · exact ⟨last, hlast,
        (hsuffix.trans (parseDecorator_suffix hdecorator)).trans (List.suffix_cons t rest)⟩
  | case5 => cases h; exact .inl rfl

theorem isOpenEnd_of_isWord {t : Terminal} {word : String} (h : t.isWord word = true) :
    isOpenEnd t :=
  .inl (beq_iff_eq.1 (Bool.and_eq_true_iff.1 h).1)

theorem skipExportWords_last (ts : List Terminal) :
    skipExportWords ts = ts ∨ ∃ last, isOpenEnd last ∧ last :: skipExportWords ts <:+ ts := by
  -- A word that is passed is the last one, or the last one comes later.
  have hpassed : ∀ (t : Terminal) (rest : List Terminal), isOpenEnd t →
      (skipExportWords rest = rest ∨
        ∃ last, isOpenEnd last ∧ last :: skipExportWords rest <:+ rest) →
      ∃ last, isOpenEnd last ∧ last :: skipExportWords rest <:+ t :: rest := by
    intro t rest ht hrest
    rcases hrest with hstay | ⟨last, hlast, hsuffix⟩
    · rw [hstay]
      exact ⟨t, ht, List.suffix_rfl⟩
    · exact ⟨last, hlast, hsuffix.trans (List.suffix_cons t rest)⟩
  fun_induction skipExportWords ts with
  | case1 => exact .inl rfl
  | case2 t rest hword ih =>
    refine .inr (hpassed t rest ?_ ih)
    rcases Bool.or_eq_true_iff.1 hword with hexport | hdefault
    · exact isOpenEnd_of_isWord hexport
    · exact isOpenEnd_of_isWord hdefault
  | case3 t rest _ hword ih =>
    refine .inr (hpassed t rest ?_ ih)
    rcases Bool.or_eq_true_iff.1 (Bool.and_eq_true_iff.1 hword).1 with hdeclare | habstract
    · exact isOpenEnd_of_isWord hdeclare
    · exact isOpenEnd_of_isWord habstract
  | case4 => exact .inl rfl

theorem parsePreamble_last {decorators : List Decorator}
    (h : parsePreamble ts = .ok (decorators, after)) :
    after = ts ∨ ∃ last, isOpenEnd last ∧ last :: after <:+ ts := by
  obtain ⟨⟨before, afterBefore⟩, hbefore, h⟩ := bind_eq_ok_iff.1 h
  obtain ⟨⟨behind, final⟩, hbehind, h⟩ := bind_eq_ok_iff.1 h
  cases h
  have hwords := skipExportWords_suffix afterBefore
  rcases parseDecorators_last hbehind with rfl | ⟨last, hlast, hsuffix⟩
  · rcases skipExportWords_last afterBefore with hstay | ⟨last, hlast, hsuffix⟩
    · rw [hstay]
      exact parseDecorators_last hbefore
    · exact .inr ⟨last, hlast, hsuffix.trans (parseDecorators_suffix hbefore)⟩
  · exact .inr ⟨last, hlast, (hsuffix.trans hwords).trans (parseDecorators_suffix hbefore)⟩

/-! ## Closed texts -/

/-- The terminals end with a semicolon or a closing brace. -/
def Closed (ts : List Terminal) : Prop :=
  ∃ last : Terminal, (last.kind = .semicolon ∨ last.kind = .closing .brace) ∧ [last] <:+ ts

theorem Closed.ne_nil (h : Closed ts) : ts ≠ [] := by
  rintro rfl
  obtain ⟨last, _, hsuffix⟩ := h
  exact absurd (List.suffix_nil.1 hsuffix) (List.cons_ne_nil last [])

theorem Closed.of_suffix (h : Closed ts) (hsuffix : after <:+ ts) (hafter : after ≠ []) :
    Closed after := by
  obtain ⟨last, hkind, hlast⟩ := h
  exact ⟨last, hkind, List.suffix_of_suffix_length_le hlast hsuffix (List.length_pos_iff.2 hafter)⟩

theorem Closed.kind_last (h : Closed ts) {t : Terminal} (ht : [t] <:+ ts) :
    t.kind = .semicolon ∨ t.kind = .closing .brace := by
  obtain ⟨last, hkind, hlast⟩ := h
  have heq : [t] = [last] :=
    (List.suffix_of_suffix_length_le ht hlast (Nat.le_refl 1)).eq_of_length rfl
  cases heq
  exact hkind

theorem Closed.not_isOpenEnd (h : Closed ts) {t : Terminal} (ht : [t] <:+ ts) : ¬isOpenEnd t := by
  intro hopen
  rcases h.kind_last ht with hkind | hkind <;> rcases hopen with hword | hparen <;> simp_all

/-! ## Declarations with more behind -/

theorem skipExportWords_append (hclosed : Closed ts) (hafter : skipExportWords ts ≠ [])
    (more : List Terminal) : skipExportWords (ts ++ more) = skipExportWords ts ++ more := by
  fun_induction skipExportWords ts with
  | case1 => exact absurd rfl hafter
  | case2 t rest hword ih =>
    have hrest : rest ≠ [] := by
      rintro rfl
      exact hafter rfl
    rw [List.cons_append, skipExportWords, if_pos hword]
    exact ih (hclosed.of_suffix (List.suffix_cons t rest) hrest) hafter
  | case3 t rest hexport hword ih =>
    have hrest : rest ≠ [] := by
      rintro rfl
      exact hafter rfl
    rw [List.cons_append, skipExportWords, if_neg hexport, startsWith_append _ hrest, if_pos hword]
    exact ih (hclosed.of_suffix (List.suffix_cons t rest) hrest) hafter
  | case4 t rest hexport hword =>
    rw [List.cons_append, skipExportWords, if_neg hexport]
    by_cases hrest : rest = []
    · subst hrest
      -- The last terminal is no word, so it is none of those that may be passed.
      have hopen : ¬(t.isWord "declare" || t.isWord "abstract") = true := by
        intro hor
        refine hclosed.not_isOpenEnd List.suffix_rfl ?_
        rcases Bool.or_eq_true_iff.1 hor with hdeclare | habstract
        · exact isOpenEnd_of_isWord hdeclare
        · exact isOpenEnd_of_isWord habstract
      rw [if_neg fun hand => hopen (Bool.and_eq_true_iff.1 hand).1]
    · rw [startsWith_append _ hrest, if_neg hword]

theorem parsePreamble_append {decorators : List Decorator}
    (h : parsePreamble ts = .ok (decorators, after)) (hclosed : Closed ts) (hafter : after ≠ [])
    (more : List Terminal) : parsePreamble (ts ++ more) = .ok (decorators, after ++ more) := by
  obtain ⟨⟨before, afterBefore⟩, hbefore, h⟩ := bind_eq_ok_iff.1 h
  obtain ⟨⟨behind, final⟩, hbehind, h⟩ := bind_eq_ok_iff.1 h
  cases h
  have hwords := (parseDecorators_suffix hbehind).ne_nil hafter
  have hafterBefore := (skipExportWords_suffix afterBefore).ne_nil hwords
  have hclosedBefore := hclosed.of_suffix (parseDecorators_suffix hbefore) hafterBefore
  rw [parsePreamble, parseDecorators_append hbefore hafterBefore more]
  dsimp only [ok_bind]
  rw [skipExportWords_append hclosedBefore hwords more, parseDecorators_append hbehind hafter more]
  rfl

/-- In a closed text a preamble is followed by a class or a statement. -/
theorem parsePreamble_ne_nil {decorators : List Decorator}
    (h : parsePreamble ts = .ok (decorators, after)) (hclosed : Closed ts) : after ≠ [] := by
  rintro rfl
  rcases parsePreamble_last h with hnil | ⟨last, hlast, hsuffix⟩
  · exact hclosed.ne_nil hnil.symm
  · exact hclosed.not_isOpenEnd hsuffix hlast

/-- What ends a closed text ends a statement only if it is a braced group. -/
theorem skipItem_nil_of_closed {t : Terminal} {rest : List Terminal}
    (hclosed : Closed (t :: rest)) (hitem : skipItem t rest = .ok [])
    (hsemicolon : t.kind ≠ .semicolon) (hclosing : ¬t.kind.isClosing = true) :
    t.kind = .opening .brace := by
  unfold skipItem at hitem
  split at hitem
  · rename_i bracket hopening
    obtain ⟨closer, hcloser, hsuffix⟩ := skipGroup_closer hitem
    rcases hclosed.kind_last (hsuffix.trans (List.suffix_cons t rest)) with hkind | hkind
    · rw [hcloser] at hkind
      cases hkind
    · rw [hcloser] at hkind
      cases hkind
      exact hopening
  · cases hitem
    rcases hclosed.kind_last List.suffix_rfl with hkind | hkind
    · exact absurd hkind hsemicolon
    · rw [hkind] at hclosing
      exact absurd rfl hclosing

theorem atLineEnd_append (hts : ts ≠ []) (more : List Terminal) :
    atLineEnd (ts ++ more) = atLineEnd ts := by
  obtain ⟨t, rest, rfl⟩ := List.exists_cons_of_ne_nil hts
  rfl

theorem skipStatement_append {started : Bool} (h : skipStatement started ts = .ok after)
    (hclosed : Closed ts) {more : List Terminal} (hline : atLineEnd more = true) :
    skipStatement started (ts ++ more) = .ok (after ++ more) := by
  fun_induction skipStatement started ts with
  | case1 => exact absurd rfl hclosed.ne_nil
  | case2 started t rest hbegins =>
    cases h
    rw [List.cons_append, skipStatement_cons, if_pos hbegins]
  | case3 started t rest hbegins hsemicolon =>
    cases h
    rw [List.cons_append, skipStatement_cons, if_neg hbegins, if_pos hsemicolon]
  | case4 => cases h
  | case5 => cases h
  | case6 started t rest hbegins hsemicolon hclosing next hitem hend =>
    cases h
    have hlineNext : atLineEnd (after ++ more) = true := by
      cases after with
      | nil => exact hline
      | cons u others => exact hend.2
    rw [List.cons_append, skipStatement_cons, if_neg hbegins, if_neg hsemicolon, if_neg hclosing,
      skipItem_append hitem more, ok_bind, if_pos ⟨hend.1, hlineNext⟩]
  | case7 started t rest hbegins hsemicolon hclosing next hitem hend ih =>
    have hnext : next ≠ [] := by
      rintro rfl
      exact hend ⟨skipItem_nil_of_closed hclosed hitem hsemicolon hclosing, rfl⟩
    have hsuffix := (skipItem_suffix hitem).trans (List.suffix_cons t rest)
    rw [List.cons_append, skipStatement_cons, if_neg hbegins, if_neg hsemicolon, if_neg hclosing,
      skipItem_append hitem more, ok_bind, atLineEnd_append hnext, if_neg hend]
    exact ih h (hclosed.of_suffix hsuffix hnext)

theorem value_parseDeclaration_append {start : Terminal} {rest : List Terminal}
    {decl : Option ClassDecl} (h : (parseDeclaration start rest).value = .ok (decl, after))
    (hclosed : Closed (start :: rest)) {more : List Terminal} (hline : atLineEnd more = true) :
    (parseDeclaration start (rest ++ more)).value = .ok (decl, after ++ more) := by
  rw [parseDeclaration] at h ⊢
  cases hpreamble : parsePreamble (start :: rest) with
  | error fault => rw [hpreamble] at h; cases h
  | ok preamble =>
    obtain ⟨decorators, afterPreamble⟩ := preamble
    have hne := parsePreamble_ne_nil hpreamble hclosed
    have hclosedAfter := hclosed.of_suffix (parsePreamble_suffix hpreamble) hne
    have happend := parsePreamble_append hpreamble hclosed hne more
    rw [List.cons_append] at happend
    rw [hpreamble] at h
    rw [happend]
    obtain ⟨t, others, rfl⟩ := List.exists_cons_of_ne_nil hne
    dsimp only [parseClassOrStatement, List.cons_append] at h ⊢
    by_cases hclass : t.isWord "class" = true
    · rw [if_pos hclass] at h ⊢
      exact value_parseClass_append h more
    · rw [if_neg hclass] at h ⊢
      cases hstatement : skipStatement false (t :: others) with
      | error fault => rw [hstatement] at h; cases h
      | ok final =>
        rw [hstatement] at h
        cases h
        have hskip := skipStatement_append hstatement hclosedAfter hline
        rw [List.cons_append] at hskip
        rw [hskip]
        rfl

theorem parseDeclaration_suffix {start : Terminal} {rest : List Terminal}
    {decl : Option ClassDecl} (h : (parseDeclaration start rest).value = .ok (decl, after)) :
    after <:+ start :: rest := by
  rw [parseDeclaration] at h
  cases hpreamble : parsePreamble (start :: rest) with
  | error fault => rw [hpreamble] at h; cases h
  | ok preamble =>
    rw [hpreamble] at h
    exact ((parseClassOrStatement_suffix h).trans (List.tail_suffix _)).trans
      (parsePreamble_suffix hpreamble)

/-- The declarations of a closed text stay the same when more follows on a line of its own, and
what follows is read as if it stood alone. -/
theorem value_parseDeclarations_append {classes : List ClassDecl} {more : List Terminal}
    (hline : atLineEnd more = true) {ts : List Terminal} (hclosed : ts = [] ∨ Closed ts)
    (h : (parseDeclarations ts).value = .ok classes) :
    (parseDeclarations (ts ++ more)).value =
      (parseDeclarations more).value.map (classes ++ ·) := by
  cases ts with
  | nil =>
    rw [parseDeclarations] at h
    cases h
    rw [List.nil_append]
    cases (parseDeclarations more).value <;> rfl
  | cons start rest =>
    have hstart : Closed (start :: rest) := hclosed.resolve_left (List.cons_ne_nil start rest)
    rw [value_parseDeclarations_cons] at h
    obtain ⟨⟨decl, after⟩, hdeclaration, h⟩ := bind_eq_ok_iff.1 h
    cases hothers : (parseDeclarations after).value with
    | error fault => dsimp only at h; rw [hothers] at h; cases h
    | ok others =>
      dsimp only at h
      rw [hothers] at h
      cases h
      have hshorter := parseDeclaration_length_lt hdeclaration
      have hafter : after = [] ∨ Closed after := by
        by_cases hnil : after = []
        · exact .inl hnil
        · exact .inr (hstart.of_suffix (parseDeclaration_suffix hdeclaration) hnil)
      have ih := value_parseDeclarations_append hline hafter hothers
      rw [List.cons_append, value_parseDeclarations_cons,
        value_parseDeclaration_append hdeclaration hstart hline, ok_bind]
      dsimp only
      rw [ih]
      cases (parseDeclarations more).value with
      | error fault => rfl
      | ok found => simp only [Except.map, List.append_assoc]
termination_by ts.length

end ComponentDocs.Declaration
