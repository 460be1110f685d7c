import ComponentDocs.Proofs.OpaqueBody
import ComponentDocs.Proofs.Declaration.Cut
import ComponentDocs.Proofs.Declaration.Origin

/-!
# Captured text

Decorators and types are kept as they are written, and the text that is kept says all there is to
say about them: a decorator put before an empty class, or a type put behind the name of a property,
is read as it was read in its file (`SourceFile.parse_captured`).

The terminals of the text are the same in the new place, as far as parsers look at them
(`exists_movable`), and none of them was looked at only because of what stood behind the text
(`Declaration.parseDecorator_exchange`, `Declaration.skipType_exchange`).
-/

namespace ComponentDocs

open Text Token Literal Terminal

/-! ## Terminals in another place -/

theorem Movable.toList_capture {first : Terminal} {taken : List Terminal} (h : Movable first taken)
    (after : List Terminal) :
    (capture (first :: (taken ++ after)) after).toList = spelling (first :: taken) := by
  rw [← List.cons_append, capture_left, String.toList_ofList, h.trim_spelling]

namespace Declaration

theorem places_relocated {taken taken' : List Terminal} (h : List.Forall₂ Relocated taken taken')
    (after : List Terminal) : Likeness.relocated.Places (taken ++ after) (taken' ++ after) :=
  List.rel_append h (List.forall₂_same.2 fun t _ => .refl t)

/-- Of the ends of a place only `after` is as long as `after`. -/
theorem eq_of_places {us after final : List Terminal} (hsuffix : final <:+ us ++ after)
    (hplaces : Likeness.relocated.Places after final) : final = after := by
  have hlength := hplaces.length_eq
  have hfinal := List.suffix_of_suffix_length_le hsuffix (List.suffix_append us after)
    (Nat.le_of_eq hlength.symm)
  exact hfinal.eq_of_length hlength.symm

theorem parseDecorator_relocated {sign : Terminal} {taken taken' after : List Terminal}
    {decorator : Decorator} (h : parseDecorator sign (taken ++ after) = .ok (decorator, after))
    (htaken : List.Forall₂ Relocated taken taken') :
    parseDecorator sign (taken' ++ after) = .ok (decorator, after) := by
  have hagree := parseDecorator_agree (L := .relocated) (.refl sign) (places_relocated htaken after)
  rw [h] at hagree
  generalize hread : parseDecorator sign (taken' ++ after) = result at hagree
  obtain @⟨_, ⟨found, final⟩, hdecorators, hfinal⟩ := hagree
  have heq : found = decorator := by
    have hmap : [found.mapText id] = [decorator.mapText id] := hdecorators
    rw [Decorator.mapText_id, Decorator.mapText_id] at hmap
    exact List.head_eq_of_cons_eq hmap
  rw [heq, eq_of_places (parseDecorator_suffix hread) hfinal]

theorem skipType_relocated {taken taken' after : List Terminal}
    (h : skipType (taken ++ after) = .ok after) (htaken : List.Forall₂ Relocated taken taken') :
    skipType (taken' ++ after) = .ok after := by
  have hagree := skipType_agree (places_relocated htaken after)
  rw [h] at hagree
  generalize hread : skipType (taken' ++ after) = result at hagree
  obtain @⟨_, final, hfinal⟩ := hagree
  rw [eq_of_places (skipType_suffix hread) hfinal]

/-! ## Text in another place -/

/-- A text that ends a decorator or a type, wherever it stands. -/
structure EndsCapture (tail : List Char) : Prop where
  endsToken : EndsToken tail
  endsText : ∀ cursor : Cursor, ∃ t more, cursor.terminals tail = t :: more ∧ t.endsText

theorem parseDecorator_text {sign : Terminal} {rest after : List Terminal} {decorator : Decorator}
    (h : parseDecorator sign rest = .ok (decorator, after)) :
    decorator.text = capture (sign :: rest) after := by
  obtain ⟨⟨name, afterName⟩, hname, h⟩ := bind_eq_ok_iff.1 h
  obtain ⟨⟨arguments, final⟩, harguments, h⟩ := bind_eq_ok_iff.1 h
  cases h
  rfl

/-- The text of a decorator is read as the decorator at any point of another text. -/
theorem DecoratorIn.exists_parseDecorator {text : String} {decorator : Decorator}
    (h : DecoratorIn (ofTokens (scan text)) decorator) (cursor : Cursor) {tail : List Char}
    (htail : EndsCapture tail) :
    ∃ (sign : List Char) (rest : List Terminal) (next : Cursor),
      cursor.terminals (decorator.text.toList ++ tail) = cursor.terminal .atSign sign :: rest ∧
      parseDecorator (cursor.terminal .atSign sign) rest =
        .ok (decorator, next.terminals tail) := by
  obtain ⟨sign, rest, after, hsuffix, hkind, hread⟩ := h
  have hslashed : sign.kind.isSlashed = false := by
    rw [hkind]
    rfl
  obtain ⟨taken, rfl, hmovable⟩ :=
    exists_movable hsuffix hslashed ((parseDecorator_solid hread).cons sign)
  obtain ⟨taken', next, htaken, hterminals⟩ := hmovable.terminals_eq cursor htail.endsToken
  refine ⟨sign.text.toList, taken' ++ next.terminals tail, next, ?_, ?_⟩
  · rw [parseDecorator_text hread, hmovable.toList_capture, hterminals, hkind]
  · -- The rest is exchanged in the file; only then are the terminals moved, and the first is last.
    have hexchange := parseDecorator_exchange hread List.suffix_rfl (.inr (htail.endsText next))
    rw [exchange_append, exchange_self] at hexchange
    rw [parseDecorator_head (t := sign) String.ofList_toList]
    exact parseDecorator_relocated hexchange htaken

/-- The text of a type is a type at any point of another text. -/
theorem TypeIn.exists_skipType {text type : String} (h : TypeIn (ofTokens (scan text)) type)
    (cursor : Cursor) {tail : List Char} (htail : EndsCapture tail) :
    ∃ next : Cursor,
      skipType (cursor.terminals (type.toList ++ tail)) = .ok (next.terminals tail) ∧
      capture (cursor.terminals (type.toList ++ tail)) (next.terminals tail) = type := by
  obtain ⟨ts, after, hsuffix, hskip, rfl⟩ := h
  obtain ⟨first, rest, rfl, -⟩ := skipType_suffix_tail hskip
  obtain ⟨taken, rfl, hmovable⟩ :=
    exists_movable hsuffix (isSlashed_of_skipType hskip) (skipType_solid hskip)
  obtain ⟨taken', next, htaken, hterminals⟩ := hmovable.terminals_eq cursor htail.endsToken
  have htext : (cursor.terminal first.kind first.text.toList).text = first.text :=
    String.ofList_toList
  rw [hmovable.toList_capture, hterminals]
  refine ⟨next, ?_, ?_⟩
  · have hexchange := skipType_exchange hskip List.suffix_rfl (.inr (htail.endsText next))
    rw [← List.cons_append, exchange_append, exchange_self] at hexchange
    have hmoved := skipType_relocated hexchange (.cons (.refl first) htaken)
    exact skipType_head (t := first) rfl htext hmoved
  · rw [capture_head htext (List.suffix_append taken' _), ← List.cons_append, ← List.cons_append,
      capture_left, capture_left, spelling_relocated (.cons (.refl first) htaken)]

/-! ## Reading the text again -/

/-- A decorator in front of a preamble. -/
theorem parsePreamble_sign {sign : Terminal} (hsign : sign.kind = .atSign) (ts : List Terminal) :
    parsePreamble (sign :: ts) =
      parseDecorator sign ts >>= fun (decorator, after) =>
        parsePreamble after >>= fun (decorators, final) =>
          .ok (decorator :: decorators, final) := by
  rw [parsePreamble, parseDecorators_cons, if_pos hsign]
  cases parseDecorator sign ts with
  | error fault => rfl
  | ok first =>
    obtain ⟨decorator, after⟩ := first
    dsimp only [ok_bind]
    rw [parsePreamble]
    cases parseDecorators after with
    | error fault => rfl
    | ok found =>
      obtain ⟨before, afterBefore⟩ := found
      dsimp only [ok_bind]
      cases parseDecorators (skipExportWords afterBefore) <;> rfl

/-- A property is a name with an optional type and an optional initializer, up to the semicolon
behind them. -/
theorem parseMember_property {name sign : Terminal} {rest afterType after : List Terminal}
    {type : Option String} (hname : name.kind = .word) (hends : endsName (sign :: rest) = true)
    (hsign : sign.kind ∉ [.opening .brace, .opening .paren, .less, .question, .bang])
    (htype : parsePropertyType (sign :: rest) = .ok (type, afterType))
    (hinitializer : skipOptionalInitializer afterType = .ok after) :
    parseMember (name :: sign :: rest) =
      .ok (some ⟨.property, name.text, .none, [], name.doc, type⟩,
        skipOptional .semicolon after) := by
  simp only [List.mem_cons, List.not_mem_nil, or_false, not_or] at hsign
  obtain ⟨hbrace, hparen, hless, hquestion, hbang⟩ := hsign
  have hsignature : parseSignature .property (sign :: rest) =
      .ok ((.property, type), skipOptional .semicolon after) := by
    simp [parseSignature, startsWith, hparen, hless, htype, hinitializer, pure, Except.pure]
  rw [parseMember_named hname hends (by simp [hbrace, hquestion, hbang]),
    if_neg fun hkind => hparen hkind.2, hsignature]
  rfl

/-- The type of a property behind its colon. -/
theorem parsePropertyType_colon {colon : Terminal} (hcolon : colon.kind = .colon)
    {ts after : List Terminal} (h : skipType ts = .ok after) :
    parsePropertyType (colon :: ts) = .ok (some (capture ts after), after) := by
  rw [parsePropertyType, if_pos hcolon, h]
  rfl

end Declaration

section Texts

open Cursor Declaration

/-- An empty class on a line of its own. -/
def emptyClass : List Char :=
  '\n' :: "class X \x7b\x7d".toList

theorem terminals_emptyClass (cursor : Cursor) :
    ∃ keyword name opener closer : Terminal,
      cursor.terminals emptyClass = [keyword, name, opener, closer] ∧
      keyword.isWord "class" = true ∧ name.kind = .word ∧ name.text = "X" ∧
      opener.kind = .opening .brace ∧ closer.kind = .closing .brace := by
  let name : Identifier := ⟨"X", by decide⟩
  have htext : emptyClass = ['\n'] ++ (classKeyword.chars ++ [' '] ++ (name.chars ++ [' '] ++
      ['\x7b', '\x7d'])) := by decide
  rw [htext, terminals_skip _ isSpace_newline, terminals_spacedWord, terminals_spacedWord,
    terminals_sign _ ('\x7b', .opening .brace) (by decide),
    terminals_sign _ ('\x7d', .closing .brace) (by decide), terminals_nil]
  exact ⟨_, _, _, _, rfl, isWord_terminal _ _ _, rfl, Identifier.ofList_chars name, rfl, rfl⟩

theorem endsCapture_emptyClass : EndsCapture emptyClass := by
  refine ⟨⟨⟨'\n', _, .inl rfl, rfl⟩, by decide⟩, fun cursor => ?_⟩
  obtain ⟨keyword, name, opener, closer, hterminals, hkeyword, -⟩ := terminals_emptyClass cursor
  exact ⟨keyword, _, hterminals, .inr hkeyword⟩

/-- The end of a property and of its class. -/
def endOfClass : List Char :=
  "; \x7d".toList

theorem terminals_endOfClass (cursor : Cursor) :
    ∃ stop closer : Terminal, cursor.terminals endOfClass = [stop, closer] ∧
      stop.kind = .semicolon ∧ closer.kind = .closing .brace := by
  have htext : endOfClass = ';' :: ([' '] ++ ['\x7d']) := by decide
  rw [htext, terminals_sign _ (';', .semicolon) (by decide), terminals_skip _ isSpace_blank,
    terminals_sign _ ('\x7d', .closing .brace) (by decide), terminals_nil]
  exact ⟨_, _, rfl, rfl, rfl⟩

theorem endsCapture_endOfClass : EndsCapture endOfClass := by
  refine ⟨⟨⟨';', _, .inr rfl, rfl⟩, by decide⟩, fun cursor => ?_⟩
  obtain ⟨stop, closer, hterminals, hstop, -⟩ := terminals_endOfClass cursor
  exact ⟨stop, _, hterminals, .inl hstop⟩

end Texts

namespace SourceFile

open Cursor Declaration

/-- The decorators of the classes and of their members. -/
def decorators (file : SourceFile) : List Decorator :=
  file.classes.flatMap fun decl => decl.decorators ++ decl.members.flatMap Member.decorators

/-- The types of the members, as written. -/
def types (file : SourceFile) : List String :=
  file.classes.flatMap fun decl => decl.members.filterMap Member.type

theorem value_parse_eq_ok_iff {name text : String} {file : SourceFile} :
    (parse name text).value = .ok file ↔
      ∃ classes, (parseDeclarations (ofTokens (scan text))).value = .ok classes ∧
        file = ⟨name, classes⟩ := by
  rw [parse]
  dsimp only
  constructor
  · intro h
    split at h
    · rename_i classes hclasses
      cases h
      exact ⟨classes, hclasses, rfl⟩
    · cases h
  · rintro ⟨classes, hclasses, rfl⟩
    rw [hclasses]

/-- An empty class behind its preamble. -/
theorem value_parseDeclarations_emptyClass {start : Terminal} {rest : List Terminal}
    {decorators : List Decorator} {next : Cursor}
    (hpreamble : parsePreamble (start :: rest) = .ok (decorators, next.terminals emptyClass)) :
    (parseDeclarations (start :: rest)).value =
      .ok [⟨"X", start.line, start.doc, decorators, none, []⟩] := by
  obtain ⟨keyword, className, opener, closer, hclass, hkeyword, hkind, hname, hopener, hcloser⟩ :=
    terminals_emptyClass next
  have hreserved : className.text ∉ ["extends", "implements"] := by
    rw [hname]
    decide
  have hmembers : parseMembers opener [closer] = .ok ([], []) := by
    rw [parseMembers_cons, hcloser]
    rfl
  rw [hclass] at hpreamble
  rw [value_parseDeclarations_preamble hpreamble hkeyword hkind hreserved hopener, hmembers,
    ok_bind]
  dsimp only
  rw [parseDeclarations, hname]
  rfl

/-- No preamble stands before an empty class. -/
theorem parsePreamble_emptyClass (next : Cursor) :
    parsePreamble (next.terminals emptyClass) = .ok ([], next.terminals emptyClass) := by
  obtain ⟨keyword, className, opener, closer, hclass, hkeyword, -⟩ := terminals_emptyClass next
  rw [hclass]
  exact parsePreamble_class hkeyword _

/-- The text of a decorator before an empty class. -/
theorem parse_decorator {text : String} {decorator : Decorator}
    (h : DecoratorIn (ofTokens (scan text)) decorator) (name : String) :
    (parse name (decorator.text ++ "\n" ++ "class X \x7b\x7d")).value =
      .ok ⟨name, [⟨"X", 1, none, [decorator], none, []⟩]⟩ := by
  refine value_parse_eq_ok_iff.2 ⟨_, ?_, rfl⟩
  have htext : (decorator.text ++ "\n" ++ "class X \x7b\x7d").toList =
      decorator.text.toList ++ emptyClass := by
    rw [String.toList_append, String.toList_append, List.append_assoc]
    rfl
  obtain ⟨sign, rest, next, hterminals, hread⟩ :=
    h.exists_parseDecorator start endsCapture_emptyClass
  have hpreamble : parsePreamble (start.terminal .atSign sign :: rest) =
      .ok ([decorator], next.terminals emptyClass) := by
    rw [parsePreamble_sign rfl, hread, ok_bind]
    dsimp only
    rw [parsePreamble_emptyClass]
    rfl
  rw [scan, htext, ← terminals_start, hterminals, value_parseDeclarations_emptyClass hpreamble]
  rfl

/-- The text of a type in a class with one property. -/
theorem parse_type {text type : String} (h : TypeIn (ofTokens (scan text)) type) (name : String) :
    (parse name ("class X \x7b p: " ++ type ++ "; \x7d")).value =
      .ok ⟨name, [⟨"X", 1, none, [], none,
        [⟨.property, "p", .none, [], none, some type⟩]⟩]⟩ := by
  refine value_parse_eq_ok_iff.2 ⟨_, ?_, rfl⟩
  let className : Identifier := ⟨"X", by decide⟩
  let property : Identifier := ⟨"p", by decide⟩
  let named := (start.pass .word classKeyword.chars).skip [' '] isSpace_blank
  let headed := (named.pass .word className.chars).skip [' '] isSpace_blank
  let opened := (headed.pass (.opening .brace) ['\x7b']).skip [' '] isSpace_blank
  let called := opened.pass .word property.chars
  let typed := (called.pass .colon [':']).skip [' '] isSpace_blank
  obtain ⟨next, hskip, hcapture⟩ := h.exists_skipType typed endsCapture_endOfClass
  have htext : ("class X \x7b p: " ++ type ++ "; \x7d").toList =
      classKeyword.chars ++ [' '] ++ (className.chars ++ [' '] ++ ('\x7b' :: ([' '] ++
        (property.chars ++ (':' :: ([' '] ++ (type.toList ++ endOfClass))))))) := by
    have hopening : "class X \x7b p: ".toList = classKeyword.chars ++ ([' '] ++ (className.chars ++
        ([' '] ++ ('\x7b' :: ([' '] ++ (property.chars ++ (':' :: [' '])))))))  := by decide
    rw [String.toList_append, String.toList_append, hopening]
    simp only [List.append_assoc, List.cons_append]
    rfl
  have hterminals : ofTokens (scan ("class X \x7b p: " ++ type ++ "; \x7d")) =
      start.terminal .word classKeyword.chars :: named.terminal .word className.chars ::
        headed.terminal (.opening .brace) ['\x7b'] :: opened.terminal .word property.chars ::
          called.terminal .colon [':'] :: typed.terminals (type.toList ++ endOfClass) := by
    rw [scan, htext, ← terminals_start, terminals_spacedWord, terminals_spacedWord,
      terminals_sign _ ('\x7b', .opening .brace) (by decide), terminals_skip _ isSpace_blank,
      terminals_identifier _ property (by simp; decide),
      terminals_sign _ (':', .colon) (by decide), terminals_skip _ isSpace_blank]
  obtain ⟨stop, closer, hend, hstop, hcloser⟩ := terminals_endOfClass next
  rw [hend] at hskip hcapture
  have hmember : parseMember (opened.terminal .word property.chars ::
      called.terminal .colon [':'] :: typed.terminals (type.toList ++ endOfClass)) =
      .ok (some ⟨.property, "p", .none, [], none, some type⟩, [closer]) := by
    have hinitializer : skipOptionalInitializer [stop, closer] = .ok [stop, closer] := by
      simp [skipOptionalInitializer, hstop]
    rw [parseMember_property rfl rfl (by rw [kind_terminal]; decide)
        (parsePropertyType_colon rfl hskip) hinitializer, hcapture, text_terminal,
      Identifier.ofList_chars, skipOptional, if_pos hstop]
    rfl
  have hmembers : parseMembers (headed.terminal (.opening .brace) ['\x7b'])
      (opened.terminal .word property.chars :: called.terminal .colon [':'] ::
        typed.terminals (type.toList ++ endOfClass)) =
      .ok ([⟨.property, "p", .none, [], none, some type⟩], []) := by
    have hlast : parseMembers (headed.terminal (.opening .brace) ['\x7b']) [closer] =
        .ok ([], []) := by
      rw [parseMembers_cons, hcloser]
      rfl
    rw [parseMembers_cons, kind_terminal, if_neg (by decide), if_neg (by decide), hmember, ok_bind]
    dsimp only
    rw [hlast]
    rfl
  have hreserved : (named.terminal .word className.chars).text ∉ ["extends", "implements"] := by
    rw [text_terminal, Identifier.ofList_chars]
    decide
  rw [hterminals, value_parseDeclarations_class (by decide) rfl hreserved rfl, hmembers, ok_bind]
  dsimp only
  rw [parseDeclarations, text_terminal, Identifier.ofList_chars]
  rfl

/-- What is kept of the source text of a file is exact: each decorator is read again from its text
before a class, and each type from its text in a property. -/
theorem parse_captured {name text : String} {file : SourceFile}
    (h : (parse name text).value = .ok file) (other : String) :
    (∀ decorator ∈ file.decorators,
      (parse other (decorator.text ++ "\n" ++ "class X \x7b\x7d")).value =
        .ok ⟨other, [⟨"X", 1, none, [decorator], none, []⟩]⟩) ∧
    ∀ type ∈ file.types,
      (parse other ("class X \x7b p: " ++ type ++ "; \x7d")).value =
        .ok ⟨other, [⟨"X", 1, none, [], none,
          [⟨.property, "p", .none, [], none, some type⟩]⟩]⟩ := by
  obtain ⟨classes, hclasses, rfl⟩ := value_parse_eq_ok_iff.1 h
  have hin := parseDeclarations_in hclasses
  constructor
  · intro decorator hdecorator
    obtain ⟨decl, hdecl, hdecorator⟩ := List.mem_flatMap.1 hdecorator
    rcases List.mem_append.1 hdecorator with hdecorator | hdecorator
    · exact parse_decorator ((hin decl hdecl).decorators decorator hdecorator) other
    · obtain ⟨member, hmember, hdecorator⟩ := List.mem_flatMap.1 hdecorator
      have hmemberIn := (hin decl hdecl).members member hmember
      exact parse_decorator (hmemberIn.decorators decorator hdecorator) other
  · intro type htype
    obtain ⟨decl, hdecl, htype⟩ := List.mem_flatMap.1 htype
    obtain ⟨member, hmember, htype⟩ := List.mem_filterMap.1 htype
    have hmemberIn := (hin decl hdecl).members member hmember
    exact parse_type (hmemberIn.type type htype) other

-- A regular expression and a comment with a parenthesis in them, and a type over an arrow.
theorem parse_captured_parentheses :
    (parse "a.ts" ("@A(/[)]/, () => x /* ) */)" ++ "\n" ++ "class X \x7b\x7d")).value =
      .ok ⟨"a.ts", [⟨"X", 1, none,
        [⟨"A", "@A(/[)]/, () => x /* ) */)", [.other "/[)]/", .other "() => x"]⟩], none, []⟩]⟩ ∧
    (parse "a.ts" ("class X \x7b p: " ++ "Map<K, (a: T) => U[]> /* t */ | null" ++
        "; \x7d")).value =
      .ok ⟨"a.ts", [⟨"X", 1, none, [], none,
        [⟨.property, "p", .none, [], none, some "Map<K, (a: T) => U[]> /* t */ | null"⟩]⟩]⟩ := by
  have haccepted : (parse "b.ts" ("@A(/[)]/, () => x /* ) */) class C \x7b" ++
      "@b.B('') q?: Map<K, (a: T) => U[]> /* t */ | null = 1 \x7d")).value =
      .ok ⟨"b.ts", [⟨"C", 1, none,
        [⟨"A", "@A(/[)]/, () => x /* ) */)", [.other "/[)]/", .other "() => x"]⟩], none,
        [⟨.property, "q", .none, [⟨"B", "@b.B('')", [.string ""]⟩], none,
          some "Map<K, (a: T) => U[]> /* t */ | null"⟩]⟩]⟩ := by
    decide +kernel
  obtain ⟨hdecorators, htypes⟩ := parse_captured haccepted "a.ts"
  constructor
  · exact hdecorators ⟨"A", "@A(/[)]/, () => x /* ) */)", [.other "/[)]/", .other "() => x"]⟩
      (by simp [decorators])
  · exact htypes "Map<K, (a: T) => U[]> /* t */ | null" (by simp [types])

end SourceFile

end ComponentDocs
