import ComponentDocs.Proofs.Outline.Member

/-!
# Parsing undoes printing

A file of printed classes is read as these classes, in their order and with the lines where they
stand: `SourceFile.parse_printAll`.  Each class is a preamble of decorators, a header, and a body
in braces, and there is one lemma for each of them; the members in the body are read as
`Cursor.parseMembers_print` says.
-/

namespace ComponentDocs

open Text Token Terminal Declaration

namespace ClassOutline

/-- The heritage that the base class of an outline is read as. -/
def heritage : Option Identifier → Heritage
  | none => .absent
  | some base => .plain base.text

theorem name?_heritage (base : Option Identifier) :
    (heritage base).name? = base.map Identifier.text := by
  cases base <;> rfl

/-- The text of a class after its doc block and its decorators, and more text behind it. -/
def undecorated (decl : ClassOutline) (rest : List Char) : List Char :=
  "class ".toList ++ (decl.name.chars ++ (printBase decl.base ++ (" \x7b\n".toList ++
    (decl.members.flatMap MemberOutline.print ++ ("\x7d\n".toList ++ rest)))))

-- Rewriting with the definition itself would evaluate the string literals in it.
theorem undecorated_eq (decl : ClassOutline) (rest : List Char) :
    decl.undecorated rest = "class ".toList ++ (decl.name.chars ++ (printBase decl.base ++
      (" \x7b\n".toList ++
        (decl.members.flatMap MemberOutline.print ++ ("\x7d\n".toList ++ rest))))) :=
  rfl

end ClassOutline

namespace Cursor

open ClassOutline

/-! ## Headers -/

theorem terminals_bodyStart (cursor : Cursor) (rest : List Char) :
    ∃ (brace : Terminal) (next : Cursor), brace.kind = .opening .brace ∧ next.comments = [] ∧
      next.line = cursor.line + 1 ∧
      cursor.terminals (" \x7b\n".toList ++ rest) = brace :: next.terminals rest := by
  let opened := (cursor.skip [' '] isSpace_blank).pass (.opening .brace) ['\x7b']
  refine ⟨(cursor.skip [' '] isSpace_blank).terminal (.opening .brace) ['\x7b'],
    opened.skip ['\n'] isSpace_newline, rfl, rfl, ?_, ?_⟩
  · rw [line_skip, line_pass, line_skip]
    rfl
  · show cursor.terminals ([' '] ++ '\x7b' :: (['\n'] ++ rest)) = _
    rw [terminals_skip _ isSpace_blank, terminals_sign _ ('\x7b', .opening .brace) (by decide),
      terminals_skip _ isSpace_newline]

theorem skipOptionalAngles_of_ne {t : Terminal} (ht : t.kind ≠ .less) (more : List Terminal) :
    skipOptionalAngles (t :: more) = .ok (t :: more) := by
  rw [skipOptionalAngles, if_neg ht]

/-- A base class is a plain name when the body follows it. -/
theorem parseBase_plain {base brace : Terminal} (hbase : base.kind = .word)
    (hbrace : brace.kind = .opening .brace) (more : List Terminal) :
    parseBase (base :: brace :: more) = .ok (.plain base.text, brace :: more) := by
  have hdot : brace.kind ≠ .dot := by
    rw [hbrace]
    decide
  have hless : brace.kind ≠ .less := by
    rw [hbrace]
    decide
  have hparen : startsWith (.opening .paren) (brace :: more) = false := by
    rw [startsWith, hbrace]
    rfl
  have hname : parseBaseName (base :: brace :: more) = (some base.text, brace :: more) := by
    rw [parseBaseName_cons, if_pos hbase]
    dsimp only
    rw [if_neg hdot]
  rw [parseBase, hname]
  dsimp only
  rw [skipOptionalAngles_of_ne hless, ok_bind, hparen]
  rfl

/-- The cursor after the word in front of a base class. -/
def afterExtends (cursor : Cursor) : Cursor :=
  ((cursor.skip [' '] isSpace_blank).pass .word extendsKeyword.chars).skip [' '] isSpace_blank

theorem line_afterExtends (cursor : Cursor) :
    cursor.afterExtends.line = cursor.line + countNewlines " extends ".toList := by
  rw [afterExtends, line_skip, line_pass, line_skip]
  rfl

theorem terminals_extends (cursor : Cursor) (rest : List Char) :
    cursor.terminals (" extends ".toList ++ rest) =
      (cursor.skip [' '] isSpace_blank).terminal .word extendsKeyword.chars ::
        cursor.afterExtends.terminals rest := by
  show cursor.terminals ([' '] ++ (extendsKeyword.chars ++ [' '] ++ rest)) = _
  rw [terminals_skip _ isSpace_blank, terminals_spacedWord]
  rfl

theorem isWordPart_bodyStart (rest : List Char) :
    ∀ c ∈ (" \x7b\n".toList ++ rest).head?, Literal.isWordPart c = false := by
  intro c hc
  cases hc
  rfl

theorem isWordPart_printBase (base : Option Identifier) (rest : List Char) :
    ∀ c ∈ (printBase base ++ (" \x7b\n".toList ++ rest)).head?,
      Literal.isWordPart c = false := by
  intro c hc
  cases base <;> (cases hc; rfl)

/-- The base class of a header and the brace behind it. -/
theorem parseHeritage_print (cursor : Cursor) (base : Option Identifier) (rest : List Char) :
    ∃ (t brace : Terminal) (more : List Terminal) (next : Cursor),
      t.kind ≠ .less ∧ brace.kind = .opening .brace ∧ next.comments = [] ∧
      next.line = cursor.line + countNewlines (printBase base) + 1 ∧
      cursor.terminals (printBase base ++ (" \x7b\n".toList ++ rest)) = t :: more ∧
      parseHeritage (t :: more) = .ok (heritage base, brace :: next.terminals rest) := by
  cases base with
  | none =>
    obtain ⟨brace, next, hbrace, hcomments, hline, hterminals⟩ := cursor.terminals_bodyStart rest
    refine ⟨brace, brace, _, next, by rw [hbrace]; decide, hbrace, hcomments, hline, hterminals, ?_⟩
    have hextends : brace.isWord "extends" = false := by
      rw [isWord, hbrace]
      rfl
    rw [parseHeritage, hextends]
    rfl
  | some base =>
    obtain ⟨brace, next, hbrace, hcomments, hline, hterminals⟩ :=
      ((afterExtends cursor).pass .word base.chars).terminals_bodyStart rest
    refine ⟨(cursor.skip [' '] isSpace_blank).terminal .word extendsKeyword.chars, brace,
      (afterExtends cursor).terminal .word base.chars :: brace :: next.terminals rest, next, ?_,
      hbrace, hcomments, ?_, ?_, ?_⟩
    · rw [kind_terminal]
      decide
    · rw [hline, line_pass, line_afterExtends, printBase_some, countNewlines_append,
        Nat.add_assoc cursor.line]
    · rw [printBase_some, List.append_assoc, terminals_extends,
        terminals_identifier _ base (isWordPart_bodyStart rest), hterminals]
    · rw [parseHeritage, isWord_terminal, if_pos (by decide), parseBase_plain rfl hbrace,
        text_terminal, Identifier.ofList_chars]
      rfl

/-- A header is read up to the brace that opens the body. -/
theorem parseHeader_print (cursor : Cursor) (decl : ClassOutline) (rest : List Char) :
    ∃ (brace : Terminal) (next : Cursor), brace.kind = .opening .brace ∧ next.comments = [] ∧
      next.line = cursor.line + countNewlines (decl.name.chars ++ printBase decl.base) + 1 ∧
      parseHeader (cursor.terminals
          (decl.name.chars ++ (printBase decl.base ++ (" \x7b\n".toList ++ rest)))) =
        .ok ((some decl.name.text, heritage decl.base), brace :: next.terminals rest) := by
  obtain ⟨t, brace, more, next, ht, hbrace, hcomments, hline, hterminals, hheritage⟩ :=
    (cursor.pass .word decl.name.chars).parseHeritage_print decl.base rest
  refine ⟨brace, next, hbrace, hcomments, ?_, ?_⟩
  · rw [hline, line_pass, countNewlines_append, Nat.add_assoc cursor.line]
  · have hname : ∀ after, parseClassName (cursor.terminal .word decl.name.chars :: after) =
        (some decl.name.text, after) := by
      intro after
      simp [parseClassName, decl.name_ne.1, decl.name_ne.2]
    rw [terminals_identifier _ _ (isWordPart_printBase decl.base rest), parseHeader, hname,
      hterminals]
    dsimp only
    rw [skipOptionalAngles_of_ne ht, ok_bind, hheritage]
    rfl

/-! ## Classes -/

theorem parseBody_print {brace : Terminal} (hbrace : brace.kind = .opening .brace)
    (members : List MemberOutline) {cursor : Cursor} (hcomments : cursor.comments = [])
    (rest : List Char) :
    ∃ next : Cursor, next.comments = [] ∧
      next.line = cursor.line + countNewlines (members.flatMap MemberOutline.print) + 1 ∧
      parseBody (brace :: cursor.terminals
          (members.flatMap MemberOutline.print ++ ("\x7d\n".toList ++ rest))) =
        .ok (members.map MemberOutline.declaration, next.terminals rest) := by
  obtain ⟨next, hnext, hline, hmembers⟩ :=
    parseMembers_print ('\n' :: rest) brace members hcomments
  refine ⟨next.skip ['\n'] isSpace_newline, hnext, ?_, ?_⟩
  · rw [line_skip, hline]
    rfl
  · have hinterfaces : ∀ after, skipInterfaces (brace :: after) = .ok (brace :: after) := by
      intro after
      rw [skipInterfaces, startsWithWord, isWord, hbrace]
      rfl
    rw [parseBody, hinterfaces, ok_bind]
    dsimp only
    rw [if_pos hbrace, ← terminals_skip _ isSpace_newline]
    exact hmembers

theorem terminals_print (cursor : Cursor) (decl : ClassOutline) (rest : List Char) :
    cursor.terminals (decl.print ++ rest) =
      (cursor.afterDoc decl.doc).terminals
        (decoratorLines decl.decorators ++ decl.undecorated rest) := by
  rw [ClassOutline.print, List.append_assoc, terminals_docLine, undecorated_eq]
  simp only [List.append_assoc]

/-- The cursor after the word `class`. -/
def afterClass (cursor : Cursor) : Cursor :=
  (cursor.pass .word classKeyword.chars).skip [' '] isSpace_blank

theorem line_afterClass (cursor : Cursor) : cursor.afterClass.line = cursor.line := by
  rw [afterClass, line_skip, line_pass]
  rfl

theorem terminals_class (cursor : Cursor) (rest : List Char) :
    cursor.terminals ("class ".toList ++ rest) =
      cursor.terminal .word classKeyword.chars :: cursor.afterClass.terminals rest :=
  cursor.terminals_spacedWord classKeyword rest

theorem beginsName_undecorated (decl : ClassOutline) (rest : List Char) :
    BeginsName (decl.undecorated rest) :=
  fun cursor => ⟨_, _, _, .inl rfl, cursor.terminals_class _⟩

/-- The decorators of a class are read up to the word `class`, which is no word to skip. -/
theorem parsePreamble_print (cursor : Cursor) (decl : ClassOutline) (rest : List Char) :
    parsePreamble (cursor.terminals (decoratorLines decl.decorators ++ decl.undecorated rest)) =
      .ok (decl.decorators.map MemberOutline.plainDecorator,
        (cursor.afterDecorators decl.decorators).terminals (decl.undecorated rest)) := by
  have hbegins := beginsName_undecorated decl rest
  have hskip : ∀ cursor : Cursor, skipExportWords (cursor.terminals (decl.undecorated rest)) =
      cursor.terminals (decl.undecorated rest) := by
    intro cursor
    rw [undecorated_eq, terminals_class, skipExportWords, isWord_terminal, isWord_terminal,
      isWord_terminal, isWord_terminal]
    rfl
  have hnone := (cursor.afterDecorators decl.decorators).parseDecorators_print [] hbegins
  rw [parsePreamble, cursor.parseDecorators_print decl.decorators hbegins, ok_bind]
  dsimp only
  rw [hskip]
  show (parseDecorators (terminals _ (decoratorLines [] ++ decl.undecorated rest)) >>= _) = _
  rw [hnone, ok_bind]
  dsimp only
  rw [List.map_nil, List.append_nil]
  rfl

/-- A printed class is read as its declaration, and reading stops behind it. -/
theorem value_parseDeclaration_print {cursor : Cursor} (hcomments : cursor.comments = [])
    (decl : ClassOutline) (rest : List Char) :
    ∃ (start : Terminal) (more : List Terminal) (next : Cursor), next.comments = [] ∧
      next.line = cursor.line + countNewlines decl.print ∧
      cursor.terminals (decl.print ++ rest) = start :: more ∧
      (parseDeclaration start more).value =
        .ok (some (decl.declaration cursor.line), next.terminals rest) := by
  let named := ((cursor.afterDoc decl.doc).afterDecorators decl.decorators).afterClass
  obtain ⟨kind, text, more, -, hstart⟩ := (cursor.afterDoc decl.doc).terminals_decoratorLines
    decl.decorators (beginsName_undecorated decl rest)
  obtain ⟨brace, body, hbrace, hbody, hbodyLine, hheader⟩ := named.parseHeader_print decl
    (decl.members.flatMap MemberOutline.print ++ ("\x7d\n".toList ++ rest))
  obtain ⟨next, hnext, hline, hmembers⟩ := parseBody_print hbrace decl.members hbody rest
  refine ⟨_, more, next, hnext, ?_, (cursor.terminals_print decl rest).trans hstart, ?_⟩
  · have hclass : countNewlines "class ".toList = 0 := rfl
    have hopen : countNewlines " \x7b\n".toList = 1 := rfl
    have hclose : countNewlines "\x7d\n".toList = 1 := rfl
    have hnamed : named.line = cursor.line + countNewlines (docLine decl.doc) +
        countNewlines (decoratorLines decl.decorators) := by
      rw [line_afterClass, line_afterDecorators, line_afterDoc]
    rw [hline, hbodyLine, hnamed, ClassOutline.print]
    simp only [countNewlines_append, hclass, hopen, hclose]
    omega
  · rw [value_parseDeclaration, ← hstart, parsePreamble_print, ok_bind]
    dsimp only
    rw [undecorated_eq, terminals_class, parseClassOrStatement, isWord_terminal, if_pos (by decide),
      value_parseClass, hheader, ok_bind]
    dsimp only
    rw [hmembers, ok_bind, name?_heritage, line_terminal, line_afterDoc, doc_terminal,
      doc_afterDoc hcomments]
    rfl

/-- Printed classes in a row are read to the end of the text. -/
theorem value_parseDeclarations_print (decls : List ClassOutline) {cursor : Cursor}
    (hcomments : cursor.comments = []) :
    (parseDeclarations (cursor.terminals (decls.flatMap ClassOutline.print))).value =
      .ok (ClassOutline.declarations cursor.line decls) := by
  induction decls generalizing cursor with
  | nil =>
    rw [List.flatMap_nil, terminals_nil, parseDeclarations]
    rfl
  | cons decl decls ih =>
    obtain ⟨start, more, next, hnext, hline, hterminals, hdecl⟩ :=
      value_parseDeclaration_print hcomments decl (decls.flatMap ClassOutline.print)
    rw [List.flatMap_cons, hterminals, value_parseDeclarations_cons, hdecl, ok_bind]
    dsimp only
    rw [ih hnext, hline]
    rfl

end Cursor

/-- The text of printed classes is read without fault, as exactly these classes. -/
theorem SourceFile.parse_printAll (name : String) (decls : List ClassOutline) :
    (parse name (ClassOutline.printAll decls)).value =
      .ok ⟨name, ClassOutline.declarations 1 decls⟩ := by
  have hterminals : ofTokens (scan (ClassOutline.printAll decls)) =
      Cursor.start.terminals (decls.flatMap ClassOutline.print) := by
    rw [scan, ClassOutline.printAll, String.toList_ofList]
    exact (Cursor.attachAll_nil _).symm
  have hdecls := Cursor.start.value_parseDeclarations_print decls rfl
  rw [parse, hterminals, hdecls]
  rfl

-- The same words are names or modifiers, as the words behind them say.
example :
    (SourceFile.parse "a.ts"
        "class static \x7b\nget() \x7b\x7d\nstatic readonly #set: T;\n\x7d\n").value =
      .ok ⟨"a.ts", [⟨"static", 1, none, [], none,
        [⟨.method, "get", ⟨none, false, false, false, false⟩, [], none, none⟩,
          ⟨.property, "#set", ⟨none, true, true, false, true⟩, [], none, some "T"⟩]⟩]⟩ := by
  decide +kernel

end ComponentDocs
