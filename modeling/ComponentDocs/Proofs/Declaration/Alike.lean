import ComponentDocs.Proofs.Declaration.Likeness

/-!
# Parsing at places that look alike

What skips groups, arguments, decorators, types and initializers does the same at two places that
are alike.  Every lemma follows its parser: the branches are decided alike because the terminals
are, and a step that both sides take is followed by the rest at places that are alike again.
-/

namespace ComponentDocs.Declaration

open Terminal Likeness

variable {L : Likeness} {ts us : List Terminal}

/-! ## Groups -/

theorem closeBrackets_agree {opener opener' : Terminal} (hopener : L.alike opener opener')
    (awaited : List Bracket) (h : L.Places ts us) :
    L.Agree L.Places (closeBrackets opener awaited ts) (closeBrackets opener' awaited us) := by
  fun_induction closeBrackets opener awaited ts generalizing us with
  | case1 ts =>
    rw [closeBrackets]
    exact .ok h
  | case2 =>
    cases h
    rw [closeBrackets]
    exact .error (faults_atTerminal hopener (by rw [L.text_eq hopener]))
  | case3 awaited outer t rest bracket hkind ih =>
    obtain _ | ⟨ht, hrest⟩ := h
    simp only [closeBrackets, L.kind_eq ht, hkind]
    exact ih hrest
  | case4 outer t rest bracket hkind ih =>
    obtain _ | ⟨ht, hrest⟩ := h
    simp only [closeBrackets, L.kind_eq ht, hkind, if_true]
    exact ih hrest
  | case5 awaited outer t rest bracket hkind hbracket =>
    obtain _ | ⟨ht, hrest⟩ := h
    simp only [closeBrackets, L.kind_eq ht, hkind, if_neg hbracket]
    exact .error (faults_atTerminal ht (by rw [L.text_eq ht]))
  | case6 awaited outer t rest hopening hclosing ih =>
    obtain _ | ⟨ht, hrest⟩ := h
    rw [closeBrackets, L.kind_eq ht]
    split
    · rename_i hkind; exact absurd hkind (hopening _)
    · rename_i hkind; exact absurd hkind (hclosing _)
    · exact ih hrest

theorem skipGroup_agree {opener opener' : Terminal} (hopener : L.alike opener opener')
    (bracket : Bracket) (h : L.Places ts us) :
    L.Agree L.Places (skipGroup opener bracket ts) (skipGroup opener' bracket us) :=
  closeBrackets_agree hopener [bracket] h

theorem skipItem_agree {t u : Terminal} (ht : L.alike t u) (h : L.Places ts us) :
    L.Agree L.Places (skipItem t ts) (skipItem u us) := by
  rw [skipItem, skipItem, L.kind_eq ht]
  split
  · exact skipGroup_agree ht _ h
  · exact .ok h

theorem closeAngles_agree {opener opener' : Terminal} (hopener : L.alike opener opener')
    (depth : Nat) {ts us : List Terminal} (h : L.Places ts us) :
    L.Agree L.Places (closeAngles opener depth ts) (closeAngles opener' depth us) := by
  have hunclosed : L.Faults (.atTerminal opener (.unclosed opener.text))
      (.atTerminal opener' (.unclosed opener'.text)) :=
    faults_atTerminal hopener (by rw [L.text_eq hopener])
  match depth, ts, us, h with
  | 0, ts, us, h =>
    rw [closeAngles, closeAngles]
    exact .ok h
  | depth + 1, [], [], .nil =>
    rw [closeAngles, closeAngles]
    exact .error hunclosed
  | depth + 1, t :: rest, u :: others, .cons ht hrest =>
    rw [closeAngles_cons, closeAngles_cons, L.kind_eq ht]
    refine .ite (fun _ => closeAngles_agree hopener (depth + 2) hrest) fun _ => ?_
    refine .ite (fun _ => closeAngles_agree hopener depth hrest) fun _ => ?_
    refine .ite (fun _ => .error hunclosed) fun _ => ?_
    refine (skipItem_agree ht hrest).bind fun after after' hitem hafter => ?_
    have hshorter := skipItem_length_lt hitem
    exact closeAngles_agree hopener (depth + 1) hafter
termination_by ts.length
decreasing_by
  all_goals first
    | exact hshorter
    | exact Nat.lt_succ_self _

theorem skipAngles_agree {opener opener' : Terminal} (hopener : L.alike opener opener')
    (h : L.Places ts us) : L.Agree L.Places (skipAngles opener ts) (skipAngles opener' us) :=
  closeAngles_agree hopener 1 h

/-! ## Arguments and decorators -/

theorem endsItem_eq {t u : Terminal} (h : L.alike t u) : u.endsItem = t.endsItem := by
  simp only [endsItem, L.kind_eq h]

theorem atItemEnd_eq (h : L.Places ts us) : atItemEnd us = atItemEnd ts := by
  cases h with
  | nil => rfl
  | cons ht hrest => exact endsItem_eq ht

theorem entryKey?_eq {t u : Terminal} (h : L.alike t u) : entryKey? u = entryKey? t := by
  simp only [entryKey?, L.kind_eq h, L.text_eq h]

theorem skipExpression_agree {ts us : List Terminal} (h : L.Places ts us) :
    L.Agree L.Places (skipExpression ts) (skipExpression us) := by
  cases h with
  | nil =>
    rw [skipExpression]
    exact .ok .nil
  | @cons t u rest others ht hrest =>
    rw [skipExpression_cons, skipExpression_cons, endsItem_eq ht]
    refine .ite (fun _ => .ok (.cons ht hrest)) fun _ => ?_
    refine (skipItem_agree ht hrest).bind fun after after' hitem hafter => ?_
    have hshorter := skipItem_length_lt hitem
    exact skipExpression_agree hafter
termination_by ts.length
decreasing_by exact hshorter

theorem parseOther_agree {before before' : List Terminal} (hbefore : L.Places before before')
    (h : L.Places ts us) :
    L.Agree (L.Reads L.Exprs) (parseOther before ts) (parseOther before' us) := by
  refine (skipExpression_agree h).bind fun rest rest' _ hrest => .ok ⟨?_, hrest⟩
  simp only [Exprs, Expr.mapOther, L.slice_capture hbefore hrest]

theorem parseRest_agree {before before' : List Terminal} (hbefore : L.Places before before')
    {expr expr' : Expr} (hexpr : L.Exprs expr expr') (h : L.Places ts us) :
    L.Agree (L.Reads L.Exprs) (parseRest before expr ts) (parseRest before' expr' us) := by
  rw [parseRest, parseRest, atItemEnd_eq h]
  exact .ite (fun _ => .ok ⟨hexpr, h⟩) fun _ => parseOther_agree hbefore h

/-- Lists of expressions that agree up to the texts kept as written. -/
def Items (L : Likeness) (items items' : List Expr) : Prop :=
  Expr.mapOtherItems L.slice items' = Expr.mapOtherItems L.slice items

def Entries (L : Likeness) (entries entries' : List (String × Expr)) : Prop :=
  Expr.mapOtherEntries L.slice entries' = Expr.mapOtherEntries L.slice entries

theorem Items.append {items items' others others' : List Expr} (h : Items L items items')
    (hothers : Items L others others') : Items L (items ++ others) (items' ++ others') := by
  rw [Items] at h hothers ⊢
  rw [Expr.mapOtherItems_append, Expr.mapOtherItems_append, h, hothers]

theorem Entries.append {entries entries' others others' : List (String × Expr)}
    (h : Entries L entries entries') (hothers : Entries L others others') :
    Entries L (entries ++ others) (entries' ++ others') := by
  rw [Entries] at h hothers ⊢
  rw [Expr.mapOtherEntries_append, Expr.mapOtherEntries_append, h, hothers]

theorem parseMore_agree {α : Type} {R : List α → List α → Prop}
    (happend : ∀ {xs xs' ys ys' : List α}, R xs xs' → R ys ys' → R (xs ++ ys) (xs' ++ ys'))
    {bracket : Bracket} {others others' : List Terminal → Except Fault (List α × List Terminal)}
    {item item' : Option α} (hitem : R item.toList item'.toList) (h : L.Places ts us)
    (hothers : ∀ {rest rest' : List Terminal}, rest.length < ts.length → L.Places rest rest' →
      L.Agree (L.Reads R) (others rest) (others' rest')) :
    L.Agree (L.Reads R) (parseMore bracket others item ts) (parseMore bracket others' item' us) := by
  cases h with
  | nil =>
    rw [parseMore, parseMore]
    exact .error (faults_atPlace .nil rfl)
  | cons ht hrest =>
    rw [parseMore, parseMore, L.kind_eq ht]
    refine .ite (fun _ => ?_) fun _ => ?_
    · refine (hothers (Nat.lt_succ_self _) hrest).bind fun found found' _ hfound => .ok ?_
      exact ⟨happend hitem hfound.1, hfound.2⟩
    · refine .ite (fun _ => .ok ⟨hitem, hrest⟩) fun _ => ?_
      exact .error (faults_atTerminal ht rfl)

mutual

theorem parseExpr_agree {ts us : List Terminal} (h : L.Places ts us) :
    L.Agree (L.Reads L.Exprs) (parseExpr ts) (parseExpr us) := by
  cases h with
  | nil =>
    rw [parseExpr_nil]
    exact .ok ⟨rfl, .nil⟩
  | @cons t u rest others ht hrest =>
    have hplaces : L.Places (t :: rest) (u :: others) := .cons ht hrest
    rw [parseExpr_cons, parseExpr_cons, L.kind_eq ht, L.text_eq ht]
    generalize t.kind = kind
    cases kind with
    | opening bracket =>
      cases bracket with
      | brace =>
        refine (parseEntries_agree ht hrest).bind fun found found' _ hfound => ?_
        refine parseRest_agree hplaces ?_ hfound.2
        rw [Exprs, Expr.mapOther, Expr.mapOther, hfound.1]
      | square =>
        refine (parseItems_agree .square ht hrest).bind fun found found' _ hfound => ?_
        refine parseRest_agree hplaces ?_ hfound.2
        rw [Exprs, Expr.mapOther, Expr.mapOther, hfound.1]
      | paren => exact parseOther_agree hplaces hplaces
    | string => exact parseRest_agree hplaces rfl hrest
    | template =>
      refine .ite (fun _ => parseOther_agree hplaces hplaces) fun _ => ?_
      exact parseRest_agree hplaces rfl hrest
    | word => exact parseRest_agree hplaces rfl hrest
    | _ => exact parseOther_agree hplaces hplaces
termination_by 3 * ts.length

theorem parseItem_agree (bracket : Bracket) {ts us : List Terminal} (h : L.Places ts us) :
    L.Agree (L.Reads fun item item' => Items L item.toList item'.toList) (parseItem bracket ts)
      (parseItem bracket us) := by
  rw [parseItem_eq, parseItem_eq, startsWith_eq h]
  refine .ite (fun _ => ?_) fun _ => ?_
  · exact (skipExpression_agree h).map fun rest rest' hrest => ⟨rfl, hrest⟩
  · refine (parseExpr_agree h).map fun found found' hfound => ⟨?_, hfound.2⟩
    exact congrArg (fun expr => [expr]) hfound.1
termination_by 3 * ts.length + 1

theorem parseItems_agree (bracket : Bracket) {opener opener' : Terminal}
    (hopener : L.alike opener opener') {ts us : List Terminal} (h : L.Places ts us) :
    L.Agree (L.Reads (Items L)) (parseItems bracket opener ts) (parseItems bracket opener' us) := by
  cases h with
  | nil =>
    rw [parseItems_nil, parseItems_nil, L.text_eq hopener]
    exact .error (faults_atTerminal hopener rfl)
  | @cons t u rest others ht hrest =>
    rw [parseItems_cons, parseItems_cons, L.kind_eq ht]
    refine .ite (fun _ => .ok ⟨rfl, hrest⟩) fun _ => ?_
    refine (parseItem_agree bracket (.cons ht hrest)).bind fun found found' hitem hfound => ?_
    have hle : found.2.length ≤ rest.length + 1 := (outcome_suffix hitem).length_le
    refine parseMore_agree Items.append hfound.1 hfound.2 fun hshorter hmore => ?_
    exact parseItems_agree bracket hopener hmore
termination_by 3 * ts.length + 2

theorem parseEntry_agree {ts us : List Terminal} (h : L.Places ts us) :
    L.Agree (L.Reads fun entry entry' => Entries L entry.toList entry'.toList) (parseEntry ts)
      (parseEntry us) := by
  cases h with
  | nil =>
    rw [parseEntry_nil]
    exact .ok ⟨rfl, .nil⟩
  | @cons t u rest others ht hrest =>
    rw [parseEntry_cons, parseEntry_cons, entryKey?_eq ht]
    cases entryKey? t with
    | none =>
      exact (skipExpression_agree (.cons ht hrest)).map fun after after' hafter => ⟨rfl, hafter⟩
    | some key =>
      cases hrest with
      | nil => exact .ok ⟨rfl, .nil⟩
      | @cons v w rest others hv hrest =>
        dsimp only
        rw [L.kind_eq hv]
        refine .ite (fun _ => ?_) fun _ => .ite (fun _ => ?_) fun _ => ?_
        · refine (parseExpr_agree hrest).map fun found found' hfound => ⟨?_, hfound.2⟩
          exact congrArg (fun expr => [(key, expr)]) hfound.1
        · exact .ok ⟨rfl, .cons hv hrest⟩
        · exact (skipExpression_agree (.cons hv hrest)).map fun after after' hafter =>
            ⟨rfl, hafter⟩
termination_by 3 * ts.length + 1

theorem parseEntries_agree {opener opener' : Terminal} (hopener : L.alike opener opener')
    {ts us : List Terminal} (h : L.Places ts us) :
    L.Agree (L.Reads (Entries L)) (parseEntries opener ts) (parseEntries opener' us) := by
  cases h with
  | nil =>
    rw [parseEntries_nil, parseEntries_nil, L.text_eq hopener]
    exact .error (faults_atTerminal hopener rfl)
  | @cons t u rest others ht hrest =>
    rw [parseEntries_cons, parseEntries_cons, L.kind_eq ht]
    refine .ite (fun _ => .ok ⟨rfl, hrest⟩) fun _ => ?_
    refine (parseEntry_agree (.cons ht hrest)).bind fun found found' hentry hfound => ?_
    have hle : found.2.length ≤ rest.length + 1 := (outcome_suffix hentry).length_le
    refine parseMore_agree Entries.append hfound.1 hfound.2 fun hshorter hmore => ?_
    exact parseEntries_agree hopener hmore
termination_by 3 * ts.length + 2

end

theorem parseArguments_agree {opener opener' : Terminal} (hopener : L.alike opener opener')
    (h : L.Places ts us) :
    L.Agree (L.Reads (Items L)) (parseArguments opener ts) (parseArguments opener' us) := by
  rw [parseArguments_eq, parseArguments_eq]
  exact parseItems_agree .paren hopener h

theorem parseDecoratorName_agree {ts us : List Terminal} (h : L.Places ts us) :
    L.Agree (L.Reads Eq) (parseDecoratorName ts) (parseDecoratorName us) := by
  cases h with
  | nil => exact .error (faults_expectedAt .nil _)
  | @cons t u rest others ht hrest =>
    rw [parseDecoratorName_cons, parseDecoratorName_cons, L.kind_eq ht, L.text_eq ht]
    refine .ite (fun _ => ?_) fun _ => .error (faults_expectedAt (.cons ht hrest) _)
    cases hrest with
    | nil => exact .ok ⟨rfl, .nil⟩
    | @cons dot dot' rest others hdot hrest =>
      dsimp only
      rw [L.kind_eq hdot]
      refine .ite (fun _ => parseDecoratorName_agree hrest) fun _ => ?_
      exact .ok ⟨rfl, .cons hdot hrest⟩
termination_by ts.length

theorem parseOptionalArguments_agree (h : L.Places ts us) :
    L.Agree (L.Reads (Items L)) (parseOptionalArguments ts) (parseOptionalArguments us) := by
  cases h with
  | nil => exact .ok ⟨rfl, .nil⟩
  | cons ht hrest =>
    rw [parseOptionalArguments, parseOptionalArguments, L.kind_eq ht]
    exact .ite (fun _ => parseArguments_agree ht hrest) fun _ => .ok ⟨rfl, .cons ht hrest⟩

theorem parseDecorator_agree {sign sign' : Terminal} (hsign : L.alike sign sign')
    (h : L.Places ts us) :
    L.Agree (L.Reads fun decorator decorator' => L.Decorators [decorator] [decorator'])
      (parseDecorator sign ts) (parseDecorator sign' us) := by
  refine (parseDecoratorName_agree h).bind fun name name' _ hname => ?_
  refine (parseOptionalArguments_agree hname.2).bind fun found found' _ hfound => ?_
  refine .ok ⟨?_, hfound.2⟩
  have hcapture := L.slice_capture (.cons hsign h) hfound.2
  simp only [Likeness.Decorators, List.map_cons, List.map_nil, Decorator.mapText, hname.1, hcapture]
  rw [show Expr.mapOtherItems L.slice found'.1 = _ from hfound.1]

theorem Decorators.append {decorators decorators' others others' : List Decorator}
    (h : L.Decorators decorators decorators') (hothers : L.Decorators others others') :
    L.Decorators (decorators ++ others) (decorators' ++ others') := by
  rw [Likeness.Decorators] at h hothers ⊢
  rw [List.map_append, List.map_append, h, hothers]

theorem parseDecorators_agree {ts us : List Terminal} (h : L.Places ts us) :
    L.Agree (L.Reads L.Decorators) (parseDecorators ts) (parseDecorators us) := by
  cases h with
  | nil =>
    rw [parseDecorators]
    exact .ok ⟨rfl, .nil⟩
  | @cons t u rest others ht hrest =>
    rw [parseDecorators_cons, parseDecorators_cons, L.kind_eq ht]
    refine .ite (fun _ => ?_) fun _ => .ok ⟨rfl, .cons ht hrest⟩
    refine (parseDecorator_agree ht hrest).bind fun first first' hdecorator hfirst => ?_
    have hle := (parseDecorator_suffix hdecorator).length_le
    refine (parseDecorators_agree hfirst.2).bind fun found found' _ hfound => ?_
    exact .ok ⟨Decorators.append hfirst.1 hfound.1, hfound.2⟩
termination_by ts.length
decreasing_by exact Nat.lt_succ_of_le hle

/-! ## Types and initializers -/

theorem skipQualifiers_agree {ts us : List Terminal} (h : L.Places ts us) :
    L.Agree L.Places (skipQualifiers ts) (skipQualifiers us) := by
  cases h with
  | nil => exact .ok .nil
  | @cons dot dot' rest others hdot hrest =>
    rw [skipQualifiers_cons, skipQualifiers_cons, L.kind_eq hdot]
    refine .ite (fun _ => ?_) fun _ => .ok (.cons hdot hrest)
    cases hrest with
    | nil => exact .error (faults_expectedAt .nil _)
    | @cons name name' rest others hname hrest =>
      dsimp only
      rw [L.kind_eq hname]
      refine .ite (fun _ => skipQualifiers_agree hrest) fun _ => ?_
      exact .error (faults_expectedAt (.cons hname hrest) _)
termination_by ts.length

theorem skipOptionalAngles_agree (h : L.Places ts us) :
    L.Agree L.Places (skipOptionalAngles ts) (skipOptionalAngles us) := by
  cases h with
  | nil => exact .ok .nil
  | cons ht hrest =>
    rw [skipOptionalAngles, skipOptionalAngles, L.kind_eq ht]
    exact .ite (fun _ => skipAngles_agree ht hrest) fun _ => .ok (.cons ht hrest)

theorem skipOptionalGroup_agree (bracket : Bracket) (h : L.Places ts us) :
    L.Agree L.Places (skipOptionalGroup bracket ts) (skipOptionalGroup bracket us) := by
  cases h with
  | nil => exact .ok .nil
  | cons ht hrest =>
    rw [skipOptionalGroup, skipOptionalGroup, L.kind_eq ht]
    exact .ite (fun _ => skipGroup_agree ht bracket hrest) fun _ => .ok (.cons ht hrest)

theorem skipTypeName_agree (h : L.Places ts us) :
    L.Agree L.Places (skipTypeName ts) (skipTypeName us) :=
  (skipQualifiers_agree h).bind fun _ _ _ hafter => skipOptionalAngles_agree hafter

theorem skipTypePart_agree {ts us : List Terminal} (h : L.Places ts us) :
    L.Agree L.Places (skipTypePart ts) (skipTypePart us) := by
  cases h with
  | nil =>
    rw [skipTypePart]
    exact .error (faults_atPlace .nil rfl)
  | @cons t u rest others ht hrest =>
    have hexpected : L.Faults (.atTerminal t (.typeExpected (some t.text)))
        (.atTerminal u (.typeExpected (some t.text))) := faults_atTerminal ht rfl
    rw [skipTypePart_cons, skipTypePart_cons, L.kind_eq ht, L.text_eq ht]
    generalize t.kind = kind
    cases kind with
    | opening bracket => exact skipGroup_agree ht bracket hrest
    | less =>
      exact (skipAngles_agree ht hrest).bind fun _ _ _ hafter =>
        skipOptionalGroup_agree .paren hafter
    | word =>
      refine .ite (fun _ => skipTypePart_agree hrest) fun _ => ?_
      refine (skipTypeName_agree hrest).bind fun after after' hname hafter => ?_
      have hle := (skipTypeName_suffix hname).length_le
      cases hafter with
      | nil => exact .ok .nil
      | @cons word word' more more' hword hmore =>
        dsimp only
        rw [isWord_eq hword]
        refine .ite (fun _ => ?_) fun _ => .ok (.cons hword hmore)
        have hshorter : more.length < rest.length := hle
        exact skipTypePart_agree hmore
    | string => exact .ok hrest
    | number => exact .ok hrest
    | template => exact .ok hrest
    | operator => exact .ite (fun _ => skipTypePart_agree hrest) fun _ => .error hexpected
    | _ => exact .error hexpected
termination_by ts.length

theorem skipIndexes_agree {ts us : List Terminal} (h : L.Places ts us) :
    L.Agree L.Places (skipIndexes ts) (skipIndexes us) := by
  cases h with
  | nil =>
    rw [skipIndexes]
    exact .ok .nil
  | @cons t u rest others ht hrest =>
    rw [skipIndexes_cons, skipIndexes_cons, L.kind_eq ht, L.newlineBefore_eq ht]
    refine .ite (fun _ => ?_) fun _ => .ok (.cons ht hrest)
    refine (skipGroup_agree ht .square hrest).bind fun after after' hgroup hafter => ?_
    have hle := (skipGroup_suffix hgroup).length_le
    exact skipIndexes_agree hafter
termination_by ts.length
decreasing_by exact Nat.lt_succ_of_le hle

theorem isTypeJoin_eq {t u : Terminal} (h : L.alike t u) : u.isTypeJoin = t.isTypeJoin := by
  simp only [isTypeJoin, isOperator_eq h, L.kind_eq h]

theorem skipTypeParts_agree {ts us : List Terminal} (h : L.Places ts us) :
    L.Agree L.Places (skipTypeParts ts) (skipTypeParts us) := by
  rw [skipTypeParts_eq, skipTypeParts_eq]
  refine (skipTypePart_agree h).bind fun part part' hpart hparts => ?_
  refine (skipIndexes_agree hparts).bind fun after after' hindexes hafter => ?_
  have hle := ((skipIndexes_suffix hindexes).trans (skipTypePart_suffix hpart)).length_le
  cases hafter with
  | nil => exact .ok .nil
  | @cons t u rest others ht hrest =>
    dsimp only
    rw [isTypeJoin_eq ht]
    have hshorter : rest.length < ts.length := hle
    exact .ite (fun _ => skipTypeParts_agree hrest) fun _ => .ok (.cons ht hrest)
termination_by ts.length

theorem skipType_agree (h : L.Places ts us) : L.Agree L.Places (skipType ts) (skipType us) := by
  cases h with
  | nil => exact skipTypeParts_agree .nil
  | cons ht hrest =>
    rw [skipType, skipType, isOperator_eq ht, isOperator_eq ht]
    exact .ite (fun _ => skipTypeParts_agree hrest) fun _ => skipTypeParts_agree (.cons ht hrest)

theorem skipInitializer_agree (complete : Bool) {ts us : List Terminal} (h : L.Places ts us) :
    L.Agree L.Places (skipInitializer complete ts) (skipInitializer complete us) := by
  cases h with
  | nil =>
    rw [skipInitializer]
    exact .ok .nil
  | @cons t u rest others ht hrest =>
    have hcontinues : u.continuesExpression = t.continuesExpression := by
      simp only [continuesExpression, L.kind_eq ht, L.text_eq ht]
    have hends : u.endsExpression = t.endsExpression := by
      simp only [endsExpression, L.kind_eq ht, L.text_eq ht]
    rw [skipInitializer_cons, skipInitializer_cons, L.kind_eq ht, L.newlineBefore_eq ht,
      hcontinues, hends, L.text_eq ht]
    refine .ite (fun _ => .ok (.cons ht hrest)) fun _ => ?_
    refine .ite (fun _ => .ok (.cons ht hrest)) fun _ => ?_
    refine .ite (fun _ => .error (faults_atTerminal ht rfl)) fun _ => ?_
    refine (skipItem_agree ht hrest).bind fun after after' hitem hafter => ?_
    have hshorter := skipItem_length_lt hitem
    exact skipInitializer_agree t.endsExpression hafter
termination_by ts.length
decreasing_by exact hshorter

end ComponentDocs.Declaration
