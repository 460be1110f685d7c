import ComponentDocs.Proofs.Nesting
import ComponentDocs.Proofs.Declaration.Moved
import ComponentDocs.Proofs.Outline.Member

/-!
# Bodies are opaque

What stands in the body of a method or of a function has no influence on what is read, but for the
lines it takes up: `SourceFile.parse_eq_of_isBlock`.

Two things could carry something out of a body.  Scanning remembers the last token and the line,
and after the brace that closes the body it remembers that brace and the line only, so the text
behind it is read as if it stood alone, further down (`Terminal.exists_ofTokens_block`).  A parser
that comes to the brace that opens the body goes on from the brace that closes it
(`Declaration.PassesBody`), wherever the brackets between them are nested
(`Declaration.skipGroup_nested`).
-/

namespace ComponentDocs

open Text Token

/-- A text that can stand between braces: it has no error token, and its brackets are properly
nested and matched. -/
structure IsBlock (text : String) : Prop where
  noError : ∀ token ∈ scan text, token.kind ≠ .error
  nested : Nested ((scan text).map Token.kind)

namespace Declaration

open Terminal

/-! ## Groups -/

/-- Brackets that are nested leave the awaited ones as they are. -/
theorem closeBrackets_nested (opener : Terminal) (bracket : Bracket) (outer : List Bracket)
    {inner : List Terminal} (hinner : Nested (inner.map Terminal.kind)) (rest : List Terminal) :
    closeBrackets opener (bracket :: outer) (inner ++ rest) =
      closeBrackets opener (bracket :: outer) rest := by
  generalize hkinds : inner.map Terminal.kind = kinds at hinner
  induction hinner generalizing bracket outer inner rest with
  | nil =>
    rw [List.map_eq_nil_iff.1 hkinds, List.nil_append]
  | plain hplain _ ih =>
    obtain ⟨t, others, rfl, rfl, hothers⟩ := List.map_eq_cons_iff.1 hkinds
    rw [List.cons_append, closeBrackets]
    split
    · rename_i hopening
      rw [hopening] at hplain
      cases hplain
    · rename_i hclosing
      rw [hclosing] at hplain
      cases hplain
    · exact ih bracket outer rest hothers
  | @group other _ _ _ _ ihInner ihRest =>
    obtain ⟨t, others, rfl, hopening, hothers⟩ := List.map_eq_cons_iff.1 hkinds
    obtain ⟨group, behind, rfl, hgroup, hbehind⟩ := List.map_eq_append_iff.1 hothers
    obtain ⟨closer, last, rfl, hclosing, hlast⟩ := List.map_eq_cons_iff.1 hbehind
    rw [List.cons_append, closeBrackets, hopening]
    dsimp only
    rw [List.append_assoc, ihInner other (bracket :: outer) _ hgroup, List.cons_append,
      closeBrackets, hclosing]
    dsimp only
    rw [if_pos rfl]
    exact ihRest bracket outer rest hlast

theorem skipGroup_nested (opener : Terminal) {bracket : Bracket} {inner : List Terminal}
    (hinner : Nested (inner.map Terminal.kind)) {closer : Terminal}
    (hcloser : closer.kind = .closing bracket) (rest : List Terminal) :
    skipGroup opener bracket (inner ++ closer :: rest) = .ok rest := by
  rw [skipGroup, closeBrackets_nested opener bracket [] hinner, closeBrackets, hcloser]
  dsimp only
  rw [if_pos rfl, closeBrackets]

/-! ## Passing a body -/

/-- The classes of a file that begins with `opening` and `brace` depend on the group that `brace`
opens only through the place where it ends. -/
def PassesBody (opening : List Terminal) (brace : Terminal) : Prop :=
  ∀ {body other more : List Terminal}, skipGroup brace .brace body = .ok more →
    skipGroup brace .brace other = .ok more →
    (parseDeclarations (opening ++ brace :: body)).value =
      (parseDeclarations (opening ++ brace :: other)).value

/-- Most words are no part of a preamble. -/
theorem parsePreamble_word {t : Terminal} (hkind : t.kind = .word)
    (htext : t.text ∉ ["export", "default", "declare", "abstract"]) (rest : List Terminal) :
    parsePreamble (t :: rest) = .ok ([], t :: rest) := by
  have hdecorators : parseDecorators (t :: rest) = .ok ([], t :: rest) := by
    rw [parseDecorators_cons, hkind]
    rfl
  have hskip : skipExportWords (t :: rest) = t :: rest := by
    simp only [List.mem_cons, List.not_mem_nil, or_false, not_or] at htext
    obtain ⟨hexport, hdefault, hdeclare, habstract⟩ := htext
    simp [skipExportWords, isWord, hexport, hdefault, hdeclare, habstract]
  rw [parsePreamble, hdecorators, ok_bind]
  dsimp only
  rw [hskip, hdecorators]
  rfl

section Method

variable {keyword name opener method paren closer brace : Terminal}

/-- A class without a base is its members, with the decorators of its preamble, and then come the
other classes. -/
theorem value_parseDeclarations_preamble {start : Terminal} {rest : List Terminal}
    {decorators : List Decorator} {ts : List Terminal}
    (hpreamble : parsePreamble (start :: rest) = .ok (decorators, keyword :: name :: opener :: ts))
    (hkeyword : keyword.isWord "class" = true) (hname : name.kind = .word)
    (htext : name.text ∉ ["extends", "implements"]) (hopener : opener.kind = .opening .brace) :
    (parseDeclarations (start :: rest)).value =
      parseMembers opener ts >>= fun (members, after) =>
        (parseDeclarations after).value.map
          (⟨name.text, start.line, start.doc, decorators, none, members⟩ :: ·) := by
  have hheader : parseHeader (name :: opener :: ts) =
      .ok ((some name.text, .absent), opener :: ts) := by
    simp only [List.mem_cons, List.not_mem_nil, or_false, not_or] at htext
    simp [parseHeader, parseClassName, skipOptionalAngles, parseHeritage, isWord, hname, hopener,
      htext.1, htext.2, pure, Except.pure]
  have hbody : parseBody (opener :: ts) = parseMembers opener ts := by
    simp [parseBody, skipInterfaces, startsWithWord, isWord, hopener]
  rw [value_parseDeclarations_cons, value_parseDeclaration, hpreamble, ok_bind]
  dsimp only
  rw [parseClassOrStatement, if_pos hkeyword, value_parseClass, hheader, ok_bind]
  dsimp only
  rw [hbody]
  cases parseMembers opener ts <;> rfl

theorem parsePreamble_class (hkeyword : keyword.isWord "class" = true) (rest : List Terminal) :
    parsePreamble (keyword :: rest) = .ok ([], keyword :: rest) := by
  obtain ⟨hword, hclass⟩ := Bool.and_eq_true_iff.1 hkeyword
  refine parsePreamble_word (beq_iff_eq.1 hword) ?_ rest
  rw [beq_iff_eq.1 hclass]
  decide

/-- Without a preamble the class has no decorators. -/
theorem value_parseDeclarations_class (hkeyword : keyword.isWord "class" = true)
    (hname : name.kind = .word) (htext : name.text ∉ ["extends", "implements"])
    (hopener : opener.kind = .opening .brace) (ts : List Terminal) :
    (parseDeclarations (keyword :: name :: opener :: ts)).value =
      parseMembers opener ts >>= fun (members, after) =>
        (parseDeclarations after).value.map
          (⟨name.text, keyword.line, keyword.doc, [], none, members⟩ :: ·) :=
  value_parseDeclarations_preamble (parsePreamble_class hkeyword _) hkeyword hname htext hopener

/-- A member that is a name and a signature, without decorators, modifiers or marks. -/
theorem parseMember_named {sign : Terminal} (hname : name.kind = .word)
    {rest : List Terminal} (hends : endsName (sign :: rest) = true)
    (hsign : sign.kind ∉ [.opening .brace, .question, .bang]) :
    parseMember (name :: sign :: rest) =
      parseSignature
        (if name.text = "constructor" ∧ sign.kind = .opening .paren then .constructor
          else .property) (sign :: rest) >>= fun ((found, type), after) =>
        .ok (some ⟨found, name.text, .none, [], name.doc, type⟩, after) := by
  have hdecorators : parseDecorators (name :: sign :: rest) = .ok ([], name :: sign :: rest) := by
    rw [parseDecorators_cons, hname]
    rfl
  simp only [List.mem_cons, List.not_mem_nil, or_false, not_or] at hsign
  obtain ⟨hbrace, hquestion, hbang⟩ := hsign
  have hstatic : staticBlock? (name :: sign :: rest) = none := by
    simp [staticBlock?, hbrace]
  have hmodifiers : parseModifiers .none (name :: sign :: rest) =
      (.none, name :: sign :: rest) := by
    rw [parseModifiers, hends, Bool.not_true, Bool.and_false, if_neg Bool.false_ne_true]
  have hstar : skipOptional .star (name :: sign :: rest) = name :: sign :: rest := by
    rw [skipOptional, hname]
    rfl
  have hkind : parseMemberKind (name :: sign :: rest) =
      (if name.text = "constructor" ∧ sign.kind = .opening .paren then .constructor
        else .property, name :: sign :: rest) := by
    by_cases hconstructor : name.text = "constructor" ∧ sign.kind = .opening .paren <;>
      simp [parseMemberKind, hends, isWord, startsWith, startsIndexSignature, hname, hconstructor]
  have hmemberName : parseMemberName (name :: sign :: rest) =
      .ok ((name.text, false), sign :: rest) := by
    rw [parseMemberName_cons, hname]
  have hmark : skipNameMark (sign :: rest) = sign :: rest := by
    simp [skipNameMark, startsWith, skipOptional, hquestion, hbang]
  rw [parseMember, hdecorators, ok_bind]
  dsimp only
  rw [parseUndecorated, hstatic]
  dsimp only
  rw [hmodifiers]
  dsimp only
  rw [hstar, hkind, hmemberName, ok_bind]
  dsimp only
  rw [hmark]
  rfl

/-- A method with a body is a member, and reading goes on behind the body. -/
theorem parseMember_block (hmethod : method.kind = .word) (hparen : paren.kind = .opening .paren)
    (hcloser : closer.kind = .closing .paren) (hbrace : brace.kind = .opening .brace)
    {body more : List Terminal} (hbody : skipGroup brace .brace body = .ok more) :
    parseMember (method :: paren :: closer :: brace :: body) =
      .ok (some ⟨if method.text = "constructor" then .constructor else .method, method.text,
        .none, [], method.doc, none⟩, more) := by
  have hends : endsName (paren :: closer :: brace :: body) = true := by
    simp [endsName, hparen]
  rw [parseMember_named hmethod hends (by rw [hparen]; decide),
    Cursor.parseSignature_block hparen hcloser hbrace hbody, ok_bind]
  by_cases hconstructor : method.text = "constructor"
  · rw [if_pos ⟨hconstructor, hparen⟩, if_pos hconstructor]
    rfl
  · rw [if_neg fun h => hconstructor h.1, if_neg hconstructor]
    rfl

theorem passesBody_method (hkeyword : keyword.isWord "class" = true) (hname : name.kind = .word)
    (htext : name.text ∉ ["extends", "implements"]) (hopener : opener.kind = .opening .brace)
    (hmethod : method.kind = .word) (hparen : paren.kind = .opening .paren)
    (hcloser : closer.kind = .closing .paren) (hbrace : brace.kind = .opening .brace) :
    PassesBody [keyword, name, opener, method, paren, closer] brace := by
  intro body other more hbody hother
  have hmember := parseMember_block hmethod hparen hcloser hbrace hbody
  have hmember' := parseMember_block hmethod hparen hcloser hbrace hother
  have hmembers : parseMembers opener (method :: paren :: closer :: brace :: body) =
      parseMembers opener (method :: paren :: closer :: brace :: other) := by
    have hsemicolon : method.kind ≠ .semicolon := by
      rw [hmethod]
      decide
    have hclosing : method.kind ≠ .closing .brace := by
      rw [hmethod]
      decide
    rw [parseMembers_cons, if_neg hsemicolon, if_neg hclosing, hmember, parseMembers_cons,
      if_neg hsemicolon, if_neg hclosing, hmember']
  simp only [List.cons_append, List.nil_append]
  rw [value_parseDeclarations_class hkeyword hname htext hopener,
    value_parseDeclarations_class hkeyword hname htext hopener, hmembers]

end Method

section Function

variable {keyword name paren closer brace : Terminal}

/-- A function with a body is skipped, and the statement ends behind the body or goes on there. -/
theorem skipStatement_block (hkeyword : keyword.kind = .word) (hname : name.kind = .word)
    (htext : name.text ∉ statementWords) (hparen : paren.kind = .opening .paren)
    (hcloser : closer.kind = .closing .paren) (hbrace : brace.kind = .opening .brace)
    {body more : List Terminal} (hbody : skipGroup brace .brace body = .ok more) :
    skipStatement false (keyword :: name :: paren :: closer :: brace :: body) =
      if atLineEnd more then .ok more else skipStatement true more := by
  have hwords : ∀ {t : Terminal}, t.kind = .word → ∀ rest, skipItem t rest = .ok rest := by
    intro t ht rest
    rw [skipItem, ht]
  have hparameters : skipItem paren (closer :: brace :: body) = .ok (brace :: body) := by
    rw [skipItem, hparen]
    simp only [skipGroup, closeBrackets, hcloser, if_true]
  have hblock : skipItem brace body = .ok more := by
    rw [skipItem, hbrace]
    exact hbody
  have hbegins : name.beginsStatement = false := by
    simp [beginsStatement, hname, htext]
  have hbegins' : ∀ {t : Terminal} {bracket : Bracket}, t.kind = .opening bracket →
      t.beginsStatement = false := by
    intro t bracket ht
    simp [beginsStatement, ht]
  rw [skipStatement_cons, hwords hkeyword, ok_bind, skipStatement_cons, hwords hname, ok_bind,
    skipStatement_cons, hparameters, ok_bind, skipStatement_cons, hblock, ok_bind, hbegins,
    hbegins' hparen, hbegins' hbrace, hkeyword, hname, hparen, hbrace]
  simp [Token.Kind.isClosing]

theorem passesBody_function (hkeyword : keyword.kind = .word)
    (hkeywordText : keyword.text = "function") (hname : name.kind = .word)
    (htext : name.text ∉ statementWords) (hparen : paren.kind = .opening .paren)
    (hcloser : closer.kind = .closing .paren) (hbrace : brace.kind = .opening .brace) :
    PassesBody [keyword, name, paren, closer] brace := by
  intro body other more hbody hother
  have hpreamble : ∀ rest, parsePreamble (keyword :: rest) = .ok ([], keyword :: rest) := by
    refine parsePreamble_word hkeyword ?_
    rw [hkeywordText]
    decide
  have hclass : keyword.isWord "class" = false := by
    rw [isWord, hkeywordText]
    simp
  have hstatement := skipStatement_block hkeyword hname htext hparen hcloser hbrace hbody
  have hstatement' := skipStatement_block hkeyword hname htext hparen hcloser hbrace hother
  simp only [List.cons_append, List.nil_append]
  rw [value_parseDeclarations_cons, value_parseDeclarations_cons, value_parseDeclaration,
    value_parseDeclaration, hpreamble, hpreamble, ok_bind, ok_bind]
  dsimp only
  rw [parseClassOrStatement, parseClassOrStatement, hclass, hstatement, hstatement']
  rfl

end Function

/-! ## Exchanging bodies -/

theorem value_parseDeclarations_congr {ts us : List Terminal}
    (h : List.Forall₂ (MovedDown 0) ts us) :
    (parseDeclarations us).value = (parseDeclarations ts).value := by
  have hclass : ClassDecl.moveDown 0 = id := rfl
  have hfault : Fault.moveDown 0 = id := by
    funext fault
    obtain ⟨line, cause⟩ := fault
    cases line <;> rfl
  rw [value_parseDeclarations_movedDown h, hclass, hfault]
  cases (parseDeclarations ts).value with
  | ok classes => exact congrArg Except.ok (List.map_id classes)
  | error fault => rfl

theorem movedDown_zero (t : Terminal) : MovedDown 0 t t :=
  ⟨rfl, rfl, rfl, rfl, rfl, rfl⟩

/-- Nested brackets in the place of nested brackets, with the same text behind them. -/
theorem PassesBody.value_eq {opening : List Terminal} {brace : Terminal}
    (h : PassesBody opening brace) {inner inner' : List Terminal}
    (hinner : Nested (inner.map Terminal.kind)) (hinner' : Nested (inner'.map Terminal.kind))
    {closer closer' : Terminal} (hcloser : closer.kind = .closing .brace)
    (hcloser' : closer'.kind = .closing .brace) {rest rest' : List Terminal}
    (hrest : List.Forall₂ (MovedDown 0) rest rest') :
    (parseDeclarations (opening ++ brace :: (inner ++ closer :: rest))).value =
      (parseDeclarations (opening ++ brace :: (inner' ++ closer' :: rest'))).value := by
  have hsame : List.Forall₂ (MovedDown 0) (opening ++ brace :: closer :: rest)
      (opening ++ brace :: closer :: rest') :=
    List.rel_append (List.forall₂_same.2 fun t _ => movedDown_zero t)
      (.cons (movedDown_zero brace) (.cons (movedDown_zero closer) hrest))
  have hempty : ∀ more, skipGroup brace .brace (closer :: more) = .ok more :=
    @skipGroup_nested brace .brace [] .nil closer hcloser
  calc (parseDeclarations (opening ++ brace :: (inner ++ closer :: rest))).value
      = (parseDeclarations (opening ++ brace :: closer :: rest)).value :=
        h (skipGroup_nested brace hinner hcloser rest) (hempty rest)
    _ = (parseDeclarations (opening ++ brace :: closer :: rest')).value :=
        (value_parseDeclarations_congr hsame).symm
    _ = (parseDeclarations (opening ++ brace :: (inner' ++ closer' :: rest'))).value :=
        h (hempty rest') (skipGroup_nested brace hinner' hcloser' rest')

end Declaration

namespace Terminal

/-! ## Texts of bodies -/

/-- Terminals at the same distance below others are the same, but for their offsets. -/
theorem forall₂_movedDown_zero {lines : Nat} {ts us vs : List Terminal}
    (h : List.Forall₂ (MovedDown lines) ts us) (h' : List.Forall₂ (MovedDown lines) ts vs) :
    List.Forall₂ (MovedDown 0) us vs := by
  induction h generalizing vs with
  | nil =>
    cases h'
    exact .nil
  | cons ht hrest ih =>
    cases h' with
    | cons ht' hrest' =>
      refine .cons ⟨?_, ?_, ?_, ?_, ?_, ?_⟩ (ih hrest')
      · rw [ht'.kind, ht.kind]
      · rw [ht'.text, ht.text]
      · rw [ht'.newlineBefore, ht.newlineBefore]
      · rw [ht'.leading, ht.leading]
      · rw [ht'.doc, ht.doc]
      · rw [ht'.line, ht.line, Nat.add_zero]

/-- Nested tokens have nested terminals, when a terminal behind them takes up their comments. -/
theorem exists_ofTokens_nested {tokens : List Token} (hnested : Nested (tokens.map Token.kind))
    {last : Token} (hlast : last.kind.isComment = false) (more : List Token) :
    ∃ inner comments, Nested (inner.map kind) ∧
      ofTokens (tokens ++ last :: more) = inner ++ ⟨comments, last⟩ :: ofTokens more := by
  obtain ⟨inner, comments, hinner, hboth⟩ := ofTokens_concat_append hlast tokens more
  refine ⟨inner, comments, ?_, ?_⟩
  · have hkinds := map_kind_ofTokens (tokens ++ [last])
    rw [hinner, List.map_append, List.filter_append, List.filter_cons_of_pos (by simp [hlast]),
      List.filter_nil, List.map_append] at hkinds
    have hfiltered := hnested.filter_comments
    rw [List.filter_map] at hfiltered
    rw [List.append_cancel_right hkinds]
    exact hfiltered
  · rw [← hboth, List.append_assoc]
    rfl

end Terminal

/-- A block stays one where an expression may begin. -/
theorem IsBlock.moved {lines bytes : Nat} {context : Context}
    (hcontext : Context.Moved lines bytes .start context) {body : String} (hbody : IsBlock body) :
    (∀ token ∈ scanFrom context body.toList, token.kind ≠ .error) ∧
      Nested ((scanFrom context body.toList).map Token.kind) := by
  have hscan : scanFrom context body.toList = (scan body).map (Token.move lines bytes) :=
    hcontext.scanFrom_eq body.toList
  rw [hscan]
  constructor
  · intro token htoken
    obtain ⟨original, horiginal, rfl⟩ := List.mem_map.1 htoken
    exact hbody.noError original horiginal
  · rw [List.map_map]
    exact hbody.nested

namespace Terminal

/-- A block and the brace behind it.  After a brace an operand may follow as at the start of a
text, so what stands behind it is read as if it stood alone. -/
theorem exists_ofTokens_block {lines bytes : Nat} {context : Context}
    (hcontext : Context.Moved lines bytes .start context) {body : String} (hbody : IsBlock body)
    (rest : List Char) :
    ∃ inner closer us, Nested (inner.map kind) ∧ closer.kind = .closing .brace ∧
      List.Forall₂ (MovedDown (lines + countNewlines body.toList + 1))
        (ofTokens (scanFrom .start rest)) us ∧
      ofTokens (scanFrom context (body.toList ++ '\n' :: '\x7d' :: rest)) =
        inner ++ closer :: us := by
  obtain ⟨herror, hnested⟩ := hbody.moved hcontext
  obtain ⟨final, space, hspace, hline, -, hsplit⟩ := scanFrom_append_newline herror
  have hlead : ∀ c ∈ space ++ ['\n'], isSpace c = true :=
    List.forall_mem_append.2 ⟨hspace, List.forall_mem_singleton.2 isSpace_newline⟩
  let last := final.tokenAfter (space ++ ['\n']) (.closing .brace) ['\x7d']
  let behind := final.after (space ++ ['\n']) (.closing .brace) ['\x7d']
  have hbrace : scanFrom final (space ++ '\n' :: '\x7d' :: rest) =
      last :: scanFrom behind rest := by
    rw [List.append_cons]
    exact @scanFrom_token final _ [] rest '\x7d' (.closing .brace) hlead rfl rfl
  have hbehind : Context.Moved (lines + countNewlines body.toList + 1) behind.offset .start
      behind := by
    refine ⟨(Nat.zero_add _).symm, ?_, rfl, rfl⟩
    have hnewline : countNewlines ['\n'] = 1 := rfl
    have hsign : countNewlines ['\x7d'] = 0 := rfl
    rw [Context.after_line, countNewlines_append, ← Nat.add_assoc, hline, hcontext.line, hnewline,
      hsign]
    omega
  obtain ⟨inner, comments, hinner, hterminals⟩ :=
    @exists_ofTokens_nested _ hnested last rfl (scanFrom behind rest)
  refine ⟨inner, ⟨comments, last⟩, ofTokens (scanFrom behind rest), hinner, rfl, ?_, ?_⟩
  · rw [hbehind.scanFrom_eq]
    exact forall₂_ofTokens_move _ _ _
  · rw [hsplit, hbrace, hterminals]

end Terminal

/-! ## Texts before bodies -/

section Openings

open Terminal Declaration Cursor

/-- The text ends with the brace that opens a body. -/
def OpensBody (text : String) : Prop :=
  ∃ (opening : List Terminal) (brace : Terminal) (context : Context) (lines bytes : Nat),
    PassesBody opening brace ∧ Context.Moved lines bytes .start context ∧
    ∀ rest, ofTokens (scanFrom .start (text.toList ++ rest)) =
      opening ++ brace :: ofTokens (scanFrom context rest)

def functionKeyword : Identifier :=
  ⟨"function", by decide⟩

namespace Cursor

theorem terminals_start (cs : List Char) :
    Cursor.start.terminals cs = ofTokens (scanFrom .start cs) :=
  attachAll_nil _

/-- The cursor at the brace behind a name and empty parentheses. -/
def afterCall (cursor : Cursor) (name : Identifier) : Cursor :=
  (((cursor.pass .word name.chars).pass (.opening .paren) ['(']).pass (.closing .paren) [')']).skip
    [' '] isSpace_blank

theorem terminals_call (cursor : Cursor) (name : Identifier) (rest : List Char) :
    cursor.terminals (name.chars ++ ("() \x7b".toList ++ rest)) =
      cursor.terminal .word name.chars ::
        (cursor.pass .word name.chars).terminal (.opening .paren) ['('] ::
          ((cursor.pass .word name.chars).pass (.opening .paren) ['(']).terminal (.closing .paren)
            [')'] ::
            (cursor.afterCall name).terminal (.opening .brace) ['\x7b'] ::
              ofTokens (scanFrom
                ((cursor.afterCall name).pass (.opening .brace) ['\x7b']).context rest) := by
  have htext : "() \x7b".toList ++ rest = '(' :: ')' :: ([' '] ++ '\x7b' :: rest) := rfl
  rw [htext, terminals_identifier _ name (by simp; decide),
    terminals_sign _ ('(', .opening .paren) (by decide),
    terminals_sign _ (')', .closing .paren) (by decide), terminals_skip _ isSpace_blank,
    terminals_sign _ ('\x7b', .opening .brace) (by decide)]
  exact congrArg _ (congrArg _ (congrArg _ (congrArg _ (attachAll_nil _))))

/-- After a brace an operand may follow, as at the start of a text. -/
theorem moved_pass_brace {cursor : Cursor} (hline : 1 ≤ cursor.line) :
    Context.Moved (cursor.line - 1) (cursor.pass (.opening .brace) ['\x7b']).context.offset .start
      (cursor.pass (.opening .brace) ['\x7b']).context := by
  refine ⟨(Nat.zero_add _).symm, ?_, rfl, rfl⟩
  exact (Nat.add_sub_cancel' hline).symm

end Cursor

theorem opensBody_method (name method : Identifier)
    (hname : name.text ∉ ["extends", "implements"]) :
    OpensBody ("class " ++ name.text ++ " \x7b " ++ method.text ++ "() \x7b") := by
  let named := (start.pass .word classKeyword.chars).skip [' '] isSpace_blank
  let headed := (named.pass .word name.chars).skip [' '] isSpace_blank
  let opened := (headed.pass (.opening .brace) ['\x7b']).skip [' '] isSpace_blank
  let called := opened.pass .word method.chars
  have hpasses : PassesBody [start.terminal .word classKeyword.chars,
      named.terminal .word name.chars, headed.terminal (.opening .brace) ['\x7b'],
      opened.terminal .word method.chars, called.terminal (.opening .paren) ['('],
      (called.pass (.opening .paren) ['(']).terminal (.closing .paren) [')']]
      ((opened.afterCall method).terminal (.opening .brace) ['\x7b']) := by
    refine passesBody_method (by decide) rfl ?_ rfl rfl rfl rfl rfl
    rw [text_terminal, Identifier.ofList_chars]
    exact hname
  have hstart : start.line = 1 := rfl
  have hline : 1 ≤ (opened.afterCall method).line := by
    simp only [afterCall, line_skip, line_pass, opened, headed, named, hstart]
    omega
  refine ⟨_, _, _, _, _, hpasses, moved_pass_brace hline, fun rest => ?_⟩
  have htext : ("class " ++ name.text ++ " \x7b " ++ method.text ++ "() \x7b").toList ++ rest =
      classKeyword.chars ++ [' '] ++ (name.chars ++ [' '] ++ ('\x7b' :: ([' '] ++
        (method.chars ++ ("() \x7b".toList ++ rest))))) := by
    simp only [String.toList_append, List.append_assoc]
    rfl
  rw [htext, ← terminals_start, terminals_spacedWord, terminals_spacedWord,
    terminals_sign _ ('\x7b', .opening .brace) (by decide), terminals_skip _ isSpace_blank,
    terminals_call]
  rfl

theorem opensBody_function (name : Identifier) (hname : name.text ∉ statementWords) :
    OpensBody ("function " ++ name.text ++ "() \x7b") := by
  let named := (start.pass .word functionKeyword.chars).skip [' '] isSpace_blank
  let called := named.pass .word name.chars
  have hpasses : PassesBody [start.terminal .word functionKeyword.chars,
      named.terminal .word name.chars, called.terminal (.opening .paren) ['('],
      (called.pass (.opening .paren) ['(']).terminal (.closing .paren) [')']]
      ((named.afterCall name).terminal (.opening .brace) ['\x7b']) := by
    refine passesBody_function rfl (by decide) rfl ?_ rfl rfl rfl
    rw [text_terminal, Identifier.ofList_chars]
    exact hname
  have hstart : start.line = 1 := rfl
  have hline : 1 ≤ (named.afterCall name).line := by
    simp only [afterCall, line_skip, line_pass, named, hstart]
    omega
  refine ⟨_, _, _, _, _, hpasses, moved_pass_brace hline, fun rest => ?_⟩
  have htext : ("function " ++ name.text ++ "() \x7b").toList ++ rest =
      functionKeyword.chars ++ [' '] ++ (name.chars ++ ("() \x7b".toList ++ rest)) := by
    simp only [String.toList_append, List.append_assoc]
    rfl
  rw [htext, ← terminals_start, terminals_spacedWord, terminals_call]
  rfl

end Openings

namespace SourceFile

open Terminal Declaration

theorem parse_eq_of_opensBody {opening : String} (hopening : OpensBody opening)
    {body other : String} (hbody : IsBlock body) (hother : IsBlock other)
    (hlines : countNewlines body.toList = countNewlines other.toList) (name rest : String) :
    (parse name (opening ++ body ++ "\n" ++ "\x7d" ++ rest)).value =
      (parse name (opening ++ other ++ "\n" ++ "\x7d" ++ rest)).value := by
  obtain ⟨before, brace, context, lines, bytes, hpasses, hcontext, hterminals⟩ := hopening
  obtain ⟨inner, closer, us, hinner, hcloser, hmoved, hblock⟩ :=
    exists_ofTokens_block hcontext hbody rest.toList
  obtain ⟨inner', closer', us', hinner', hcloser', hmoved', hblock'⟩ :=
    exists_ofTokens_block hcontext hother rest.toList
  rw [← hlines] at hmoved'
  have hlist : ∀ text : String, (opening ++ text ++ "\n" ++ "\x7d" ++ rest).toList =
      opening.toList ++ (text.toList ++ '\n' :: '\x7d' :: rest.toList) := by
    intro text
    simp only [String.toList_append, List.append_assoc]
    rfl
  have hscan : ∀ text : String, ofTokens (scan (opening ++ text ++ "\n" ++ "\x7d" ++ rest)) =
      before ++ brace :: ofTokens (scanFrom context
        (text.toList ++ '\n' :: '\x7d' :: rest.toList)) := by
    intro text
    rw [scan, hlist, hterminals]
  have hvalue := hpasses.value_eq hinner hinner' hcloser hcloser'
    (forall₂_movedDown_zero hmoved hmoved')
  rw [← hblock, ← hblock', ← hscan, ← hscan] at hvalue
  have hlast : lastLine (opening ++ body ++ "\n" ++ "\x7d" ++ rest) =
      lastLine (opening ++ other ++ "\n" ++ "\x7d" ++ rest) := by
    simp only [lastLine, String.toList_append, countNewlines_append, hlines]
  rw [parse, parse]
  dsimp only
  rw [hvalue, hlast]

/-- The body of a method or of a function can be exchanged for any other one that takes up as many
lines.  The file has the same classes then, or the same fault. -/
theorem parse_eq_of_isBlock {body other : String} (hbody : IsBlock body) (hother : IsBlock other)
    (hlines : countNewlines body.toList = countNewlines other.toList) (name rest : String) :
    (parse name ("class C \x7b m() \x7b" ++ body ++ "\n" ++ "\x7d" ++ rest)).value =
        (parse name ("class C \x7b m() \x7b" ++ other ++ "\n" ++ "\x7d" ++ rest)).value ∧
      (parse name ("function f() \x7b" ++ body ++ "\n" ++ "\x7d" ++ rest)).value =
        (parse name ("function f() \x7b" ++ other ++ "\n" ++ "\x7d" ++ rest)).value := by
  have hmethod : OpensBody "class C \x7b m() \x7b" :=
    opensBody_method ⟨"C", by decide⟩ ⟨"m", by decide⟩ (by decide)
  have hfunction : OpensBody "function f() \x7b" := opensBody_function ⟨"f", by decide⟩ (by decide)
  constructor
  · exact parse_eq_of_opensBody hmethod hbody hother hlines name rest
  · exact parse_eq_of_opensBody hfunction hbody hother hlines name rest

-- A regular expression, a string and a comment with braces in them, and a class that is not one.
theorem parse_eq_of_isBlock_braces :
    (parse "a.ts" ("class C \x7b m() \x7b" ++
        "if (/[\x7d]/.test('\x7d')) \x7b\n/** no */ class D \x7b\x7d \x7d // \x7d" ++ "\n" ++
        "\x7d" ++ "/** d */ x: T; \x7d\n/\x7b/; class E \x7b\x7d")).value =
      .ok ⟨"a.ts", [⟨"C", 1, none, [], none,
        [⟨.method, "m", .none, [], none, none⟩,
          ⟨.property, "x", .none, [], some "/** d */", some "T"⟩]⟩,
        ⟨"E", 4, none, [], none, []⟩]⟩ ∧
    (parse "a.ts" ("function f() \x7b" ++
        "if (/[\x7d]/.test('\x7d')) \x7b\n/** no */ class D \x7b\x7d \x7d // \x7d" ++ "\n" ++
        "\x7d" ++ "/** d */ x: T; \x7d\n/\x7b/; class E \x7b\x7d")).value =
      .error ⟨"a.ts", 3, .unexpected "\x7d"⟩ := by
  have hbody : IsBlock
      "if (/[\x7d]/.test('\x7d')) \x7b\n/** no */ class D \x7b\x7d \x7d // \x7d" :=
    ⟨by decide +kernel, by decide +kernel⟩
  have hother : IsBlock "\n" := ⟨by decide +kernel, by decide +kernel⟩
  obtain ⟨hmethod, hfunction⟩ := parse_eq_of_isBlock hbody hother (by decide +kernel) "a.ts"
    "/** d */ x: T; \x7d\n/\x7b/; class E \x7b\x7d"
  exact ⟨hmethod.trans (by decide +kernel), hfunction.trans (by decide +kernel)⟩

end SourceFile

end ComponentDocs
