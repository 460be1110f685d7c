import ComponentDocs.Proofs.Outline.Texts

/-!
# Members as printed

At the printed form of a member, each parser yields what was printed and stops behind it.

Whether a word is a modifier or a name is decided by what stands behind it on its line.  So the
lemmas on modifiers and names say of the text behind only how it begins: with another name
(`BeginsName`), or with a sign that ends a name (`terminals_signature`).
-/

namespace ComponentDocs

open Text Token Terminal Declaration

namespace Cursor

/-! ## Decorators -/

/-- The cursor after decorators, each on a line of its own. -/
def afterDecorators (cursor : Cursor) : List Identifier → Cursor
  | [] => cursor
  | name :: names =>
    (((cursor.pass .atSign ['@']).pass .word name.chars).skip ['\n'] isSpace_newline).afterDecorators
      names

/-- The text begins with a terminal that is a word or a hash sign. -/
def BeginsName (rest : List Char) : Prop :=
  ∀ cursor : Cursor, ∃ kind text more, (kind = .word ∨ kind = .hash) ∧
    cursor.terminals rest = cursor.terminal kind text :: more

theorem terminals_decorator (cursor : Cursor) (name : Identifier) (rest : List Char) :
    cursor.terminals ('@' :: (name.chars ++ ['\n']) ++ rest) =
      cursor.terminal .atSign ['@'] ::
        (cursor.pass .atSign ['@']).terminal .word name.chars ::
          (((cursor.pass .atSign ['@']).pass .word name.chars).skip ['\n']
            isSpace_newline).terminals rest := by
  rw [List.cons_append, List.append_assoc, cursor.terminals_sign ('@', .atSign) (by decide),
    terminals_identifier _ name (by simp; decide), terminals_skip _ isSpace_newline]

/-- The text of a decorator is its at sign and its name. -/
theorem capture_decorator (cursor : Cursor) (name : Identifier) (more : List Terminal) :
    capture (cursor.terminal .atSign ['@'] ::
        (cursor.pass .atSign ['@']).terminal .word name.chars :: more) more = "@" ++ name.text := by
  have hblank : ∀ c ∈ '@' :: name.chars, isBlank c = false := by
    intro c hc
    rcases List.mem_cons.1 hc with rfl | hc
    · decide
    · exact isBlank_of_isWordPart (name.isWordPart_of_mem hc)
  have hlength : (cursor.terminal .atSign ['@'] ::
      (cursor.pass .atSign ['@']).terminal .word name.chars :: more).length - more.length = 2 := by
    simp only [List.length_cons]
    omega
  have hspelling : spelling [cursor.terminal .atSign ['@'],
      (cursor.pass .atSign ['@']).terminal .word name.chars] = '@' :: name.chars := by
    simp only [Terminal.spelling, List.flatMap_cons, List.flatMap_nil, leading_terminal_pass,
      text_terminal, String.toList_ofList, List.nil_append, List.append_nil]
    rfl
  rw [capture, hlength, List.take_succ_cons, List.take_succ_cons, List.take_zero, hspelling,
    trim_eq_self hblank]
  simp [Identifier.chars, String.ofList_cons]

theorem parseDecorator_plain (cursor : Cursor) (name : Identifier) {t : Terminal}
    (ht : t.kind = .atSign ∨ t.kind = .word ∨ t.kind = .hash) (more : List Terminal) :
    parseDecorator (cursor.terminal .atSign ['@'])
        ((cursor.pass .atSign ['@']).terminal .word name.chars :: t :: more) =
      .ok (MemberOutline.plainDecorator name, t :: more) := by
  have hdot : t.kind ≠ .dot := by
    rcases ht with ht | ht | ht <;> rw [ht] <;> decide
  have hparen : t.kind ≠ .opening .paren := by
    rcases ht with ht | ht | ht <;> rw [ht] <;> decide
  have hname : parseDecoratorName
      ((cursor.pass .atSign ['@']).terminal .word name.chars :: t :: more) =
        .ok (name.text, t :: more) := by
    rw [parseDecoratorName_cons, kind_terminal, if_pos rfl, text_terminal,
      Identifier.ofList_chars]
    dsimp only
    rw [if_neg hdot]
  rw [parseDecorator, hname]
  dsimp only [ok_bind]
  rw [parseOptionalArguments, if_neg hparen, ok_bind, capture_decorator]
  rfl

/-- With or without decorators the first terminal stands at the cursor. -/
theorem terminals_decoratorLines (cursor : Cursor) (names : List Identifier) {rest : List Char}
    (hrest : BeginsName rest) :
    ∃ kind text more, (kind = .atSign ∨ kind = .word ∨ kind = .hash) ∧
      cursor.terminals (decoratorLines names ++ rest) = cursor.terminal kind text :: more := by
  cases names with
  | nil =>
    obtain ⟨kind, text, more, hkind, hterminals⟩ := hrest cursor
    exact ⟨kind, text, more, .inr hkind, hterminals⟩
  | cons name names =>
    rw [decoratorLines_cons, List.append_assoc, terminals_decorator]
    exact ⟨_, _, _, .inl rfl, rfl⟩

theorem parseDecorators_print (cursor : Cursor) (names : List Identifier) {rest : List Char}
    (hrest : BeginsName rest) :
    parseDecorators (cursor.terminals (decoratorLines names ++ rest)) =
      .ok (names.map MemberOutline.plainDecorator,
        (cursor.afterDecorators names).terminals rest) := by
  induction names generalizing cursor with
  | nil =>
    obtain ⟨kind, text, more, hkind, hterminals⟩ := hrest cursor
    rw [decoratorLines, List.flatMap_nil, List.nil_append, afterDecorators, hterminals,
      parseDecorators_cons, kind_terminal]
    rcases hkind with rfl | rfl <;> rfl
  | cons name names ih =>
    let next := ((cursor.pass .atSign ['@']).pass .word name.chars).skip ['\n'] isSpace_newline
    obtain ⟨kind, text, more, hkind, hterminals⟩ := next.terminals_decoratorLines names hrest
    have hnext := ih next
    rw [hterminals] at hnext
    rw [decoratorLines_cons, List.append_assoc, terminals_decorator]
    show parseDecorators (_ :: _ :: next.terminals (decoratorLines names ++ rest)) = _
    rw [hterminals, parseDecorators_cons, kind_terminal, if_pos rfl,
      parseDecorator_plain cursor name hkind, ok_bind]
    dsimp only
    rw [hnext]
    rfl

/-! ## Modifiers -/

/-- The cursor after words in a row. -/
def afterWords (cursor : Cursor) : List Identifier → Cursor
  | [] => cursor
  | word :: words => ((cursor.pass .word word.chars).skip [' '] isSpace_blank).afterWords words

theorem terminals_spacedWord (cursor : Cursor) (word : Identifier) (rest : List Char) :
    cursor.terminals (word.chars ++ [' '] ++ rest) =
      cursor.terminal .word word.chars ::
        ((cursor.pass .word word.chars).skip [' '] isSpace_blank).terminals rest := by
  rw [List.append_assoc, terminals_identifier _ word (by simp; decide),
    terminals_skip _ isSpace_blank]

theorem beginsName_spacedWords (words : List Identifier) {rest : List Char}
    (hrest : BeginsName rest) : BeginsName (spacedWords words ++ rest) := by
  intro cursor
  cases words with
  | nil => exact hrest cursor
  | cons word words =>
    rw [spacedWords_cons, List.append_assoc, terminals_spacedWord]
    exact ⟨_, _, _, .inl rfl, rfl⟩

/-- A word or a hash sign on the same line does not end a name. -/
theorem endsName_eq_false {cursor : Cursor} (hnewline : cursor.newline = false) {rest : List Char}
    (hrest : BeginsName rest) : endsName (cursor.terminals rest) = false := by
  obtain ⟨kind, text, more, hkind, hterminals⟩ := hrest cursor
  rw [hterminals, endsName, newlineBefore_terminal, hnewline, kind_terminal]
  rcases hkind with rfl | rfl <;> rfl

/-- Modifier words with a name behind them are modifiers. -/
theorem parseModifiers_print (cursor : Cursor) {words : List Identifier}
    (hwords : ∀ word ∈ words, word.text ∈ modifierWords) (modifiers : Modifiers) {rest : List Char}
    (hrest : BeginsName rest)
    (hstop : ∀ (cursor : Cursor) (modifiers : Modifiers),
      parseModifiers modifiers (cursor.terminals rest) = (modifiers, cursor.terminals rest)) :
    parseModifiers modifiers (cursor.terminals (spacedWords words ++ rest)) =
      ((words.map Identifier.text).foldl Modifiers.add modifiers,
        (cursor.afterWords words).terminals rest) := by
  induction words generalizing cursor modifiers with
  | nil => exact hstop cursor modifiers
  | cons word words ih =>
    have hnewline : ((cursor.pass .word word.chars).skip [' '] isSpace_blank).newline = false := by
      rw [newline_skip, newline_pass _ rfl]
      rfl
    have hmodifier : modifierWords.contains word.text = true :=
      List.contains_iff_mem.2 (hwords word List.mem_cons_self)
    rw [spacedWords_cons, List.append_assoc, terminals_spacedWord, parseModifiers,
      kind_terminal, text_terminal, Identifier.ofList_chars, hmodifier,
      endsName_eq_false hnewline (beginsName_spacedWords words hrest)]
    exact ih _ (fun word hword => hwords word (List.mem_cons_of_mem _ hword)) _

end Cursor

theorem text_mem_modifierWords (access : Option Access) (isStatic isReadonly isAbstract : Bool) :
    ∀ word ∈ keywords access isStatic isReadonly isAbstract, word.text ∈ modifierWords := by
  rcases access with _ | ⟨_ | _ | _⟩ <;> cases isStatic <;> cases isReadonly <;> cases isAbstract <;>
    decide

/-- The modifier words of a member say what its modifiers are. -/
theorem foldl_keywords (access : Option Access) (isStatic isReadonly isAbstract : Bool) :
    ((keywords access isStatic isReadonly isAbstract).map Identifier.text).foldl Modifiers.add
      .none = ⟨access, isStatic, isReadonly, isAbstract, false⟩ := by
  rcases access with _ | ⟨_ | _ | _⟩ <;> cases isStatic <;> cases isReadonly <;> cases isAbstract <;>
    decide

namespace Cursor

/-! ## Signatures -/

/-- The signs with which a signature begins. -/
def signatureSigns : List (Char × Kind) :=
  [(';', .semicolon), (':', .colon), ('(', .opening .paren)]

theorem exists_signature_sign (signature : Signature) :
    ∃ sign ∈ signatureSigns, ∃ tail, signature.print = sign.1 :: tail := by
  match signature with
  | .property none => exact ⟨(';', .semicolon), by decide, [], rfl⟩
  | .property (some type) =>
    exact ⟨(':', .colon), by decide, _, annotated_toList type.text⟩
  | .method => exact ⟨('(', .opening .paren), by decide, ") \x7b\x7d".toList, rfl⟩

/-- A signature begins with a sign that ends a name, and no name goes on with it. -/
theorem terminals_signature (signature : Signature) (rest : List Char) :
    (∀ c ∈ (signature.print ++ rest).head?, Literal.isWordPart c = false) ∧
      ∀ cursor : Cursor, ∃ sign ∈ signatureSigns, ∃ more,
        cursor.terminals (signature.print ++ rest) = cursor.terminal sign.2 [sign.1] :: more := by
  obtain ⟨sign, hsign, tail, hprint⟩ := exists_signature_sign signature
  have hsigns : ∀ sign ∈ signatureSigns, Literal.isWordPart sign.1 = false ∧ sign ∈ signs := by
    decide
  obtain ⟨hpart, hmem⟩ := hsigns sign hsign
  rw [hprint, List.cons_append]
  refine ⟨?_, fun cursor => ⟨sign, hsign, _, cursor.terminals_sign sign hmem _⟩⟩
  intro c hc
  cases hc
  exact hpart

/-- The kind that a method gets instead of the kind of a property. -/
def signatureKind (kind : Member.Kind) : Signature → Member.Kind
  | .property _ => kind
  | .method => if kind = .property then .method else kind

/-- A method with empty parentheses and a body. -/
theorem parseSignature_block {opener closer brace : Terminal} {body more : List Terminal}
    (hopener : opener.kind = .opening .paren) (hcloser : closer.kind = .closing .paren)
    (hbrace : brace.kind = .opening .brace) (hbody : skipGroup brace .brace body = .ok more)
    (kind : Member.Kind) :
    parseSignature kind (opener :: closer :: brace :: body) =
      .ok ((signatureKind kind .method, none), more) := by
  have hless : opener.kind ≠ .less := by
    rw [hopener]
    decide
  have hcolon : brace.kind ≠ .colon := by
    rw [hbrace]
    decide
  have hparameters : skipGroup opener .paren (closer :: brace :: body) = .ok (brace :: body) := by
    simp only [skipGroup, closeBrackets, hcloser, if_true]
  have hmethod : skipMethod (opener :: closer :: brace :: body) = .ok more := by
    rw [skipMethod, skipOptionalAngles, if_neg hless, ok_bind, skipParameters, if_pos hopener,
      hparameters, ok_bind, skipOptionalType, if_neg hcolon, ok_bind, skipBody, if_pos hbrace,
      hbody]
  have hstarts : startsWith (.opening .paren) (opener :: closer :: brace :: body) = true :=
    beq_iff_eq.2 hopener
  rw [parseSignature, hstarts, Bool.or_true, if_pos rfl, hmethod]
  rfl

/-- A method with empty parentheses and an empty body. -/
theorem parseSignature_method {opener closer brace last : Terminal}
    (hopener : opener.kind = .opening .paren) (hcloser : closer.kind = .closing .paren)
    (hbrace : brace.kind = .opening .brace) (hlast : last.kind = .closing .brace)
    (kind : Member.Kind) (more : List Terminal) :
    parseSignature kind (opener :: closer :: brace :: last :: more) =
      .ok ((signatureKind kind .method, none), more) := by
  refine parseSignature_block hopener hcloser hbrace ?_ kind
  simp only [skipGroup, closeBrackets, hlast, if_true]

theorem parseSignature_print (cursor : Cursor) {kind : Kind} (hkind : kind.isComment = false)
    (text : List Char) (signature : Signature) (memberKind : Member.Kind) (rest : List Char) :
    ∃ next : Cursor, next.comments = [] ∧
      next.line = (cursor.pass kind text).line + countNewlines signature.print ∧
      parseSignature memberKind
          ((cursor.pass kind text).terminals (signature.print ++ '\n' :: rest)) =
        .ok ((signatureKind memberKind signature, signature.type?),
          next.terminals ('\n' :: rest)) := by
  match signature with
  | .property none =>
    refine ⟨(cursor.pass kind text).pass .semicolon [';'], rfl, rfl, ?_⟩
    rw [Signature.print, List.singleton_append, terminals_sign _ (';', .semicolon) (by decide)]
    rfl
  | .property (some type) =>
    obtain ⟨stop, next, hstop, hcomments, hline, hparse⟩ :=
      cursor.parsePropertyType_print hkind text type rest
    refine ⟨next, hcomments, hline, ?_⟩
    have hstarts : ∀ kind', kind' ≠ .colon → startsWith kind'
        ((cursor.pass kind text).terminals
          ((annotated type.text).toList ++ '\n' :: rest)) = false := by
      intro kind' hkind'
      rw [annotated_toList, List.cons_append, terminals_sign _ (':', .colon) (by decide), startsWith]
      exact beq_eq_false_iff_ne.2 hkind'.symm
    have hequals : stop.kind ≠ .equals := by
      rw [hstop]
      decide
    rw [Signature.print, parseSignature, hstarts _ (by decide), hstarts _ (by decide),
      Bool.or_false, if_neg Bool.false_ne_true, hparse]
    dsimp only [ok_bind]
    rw [skipOptionalInitializer, if_neg hequals, ok_bind, skipOptional, if_pos hstop]
    rfl
  | .method =>
    let opened := ((cursor.pass kind text).pass (.opening .paren) ['(']).pass (.closing .paren) [')']
    let body := (opened.skip [' '] isSpace_blank).pass (.opening .brace) ['\x7b']
    have hterminals : (cursor.pass kind text).terminals
        ('(' :: ')' :: ([' '] ++ '\x7b' :: '\x7d' :: '\n' :: rest)) =
          (cursor.pass kind text).terminal (.opening .paren) ['('] ::
            ((cursor.pass kind text).pass (.opening .paren) ['(']).terminal (.closing .paren) [')'] ::
              (opened.skip [' '] isSpace_blank).terminal (.opening .brace) ['\x7b'] ::
                body.terminal (.closing .brace) ['\x7d'] ::
                  (body.pass (.closing .brace) ['\x7d']).terminals ('\n' :: rest) := by
      rw [terminals_sign _ ('(', .opening .paren) (by decide),
        terminals_sign _ (')', .closing .paren) (by decide), terminals_skip _ isSpace_blank,
        terminals_sign _ ('\x7b', .opening .brace) (by decide),
        terminals_sign _ ('\x7d', .closing .brace) (by decide)]
    refine ⟨body.pass (.closing .brace) ['\x7d'], rfl, rfl, ?_⟩
    refine (congrArg (parseSignature memberKind) hterminals).trans ?_
    exact parseSignature_method rfl rfl rfl rfl memberKind _

/-! ## Names of members -/

/-- The cursor after the name of a member. -/
def afterName (cursor : Cursor) (isPrivateName : Bool) (name : Identifier) : Cursor :=
  (if isPrivateName then cursor.pass .hash ['#'] else cursor).pass .word name.chars

variable (member : MemberOutline) (rest : List Char)

/-- A name is read to the sign that follows it. -/
theorem terminals_name (cursor : Cursor) :
    cursor.terminals (member.printName ++ (member.signature.print ++ rest)) =
      if member.isPrivateName then
        cursor.terminal .hash ['#'] :: (cursor.pass .hash ['#']).terminal .word member.name.chars ::
          (cursor.afterName member.isPrivateName member.name).terminals
            (member.signature.print ++ rest)
      else
        cursor.terminal .word member.name.chars ::
          (cursor.afterName member.isPrivateName member.name).terminals
            (member.signature.print ++ rest) := by
  have hstop := (terminals_signature member.signature rest).1
  rw [MemberOutline.printName, afterName]
  cases member.isPrivateName with
  | true =>
    simp only [if_true, List.cons_append, List.nil_append]
    rw [terminals_sign _ ('#', .hash) (by decide), terminals_identifier _ _ hstop]
  | false =>
    simp only [Bool.false_eq_true, if_false, List.nil_append]
    rw [terminals_identifier _ _ hstop]

theorem beginsName_name :
    BeginsName (member.printName ++ (member.signature.print ++ rest)) := by
  intro cursor
  rw [terminals_name]
  split
  · exact ⟨_, _, _, .inr rfl, rfl⟩
  · exact ⟨_, _, _, .inl rfl, rfl⟩

theorem endsName_signature (cursor : Cursor) :
    endsName (cursor.terminals (member.signature.print ++ rest)) = true := by
  obtain ⟨sign, hsign, more, hterminals⟩ := (terminals_signature member.signature rest).2 cursor
  have hsigns : ∀ sign ∈ signatureSigns, sign.2 = .semicolon ∨ sign.2 = .colon ∨
      sign.2 = .opening .paren := by decide
  rw [hterminals, endsName, kind_terminal]
  rcases hsigns sign hsign with hkind | hkind | hkind <;> rw [hkind, Bool.or_true]

/-- A name is no modifier, whatever word it is. -/
theorem parseModifiers_name (cursor : Cursor) (modifiers : Modifiers) :
    parseModifiers modifiers
        (cursor.terminals (member.printName ++ (member.signature.print ++ rest))) =
      (modifiers, cursor.terminals (member.printName ++ (member.signature.print ++ rest))) := by
  rw [terminals_name]
  cases member.isPrivateName with
  | true => rfl
  | false =>
    simp only [Bool.false_eq_true, if_false]
    rw [parseModifiers, endsName_signature, Bool.not_true, Bool.and_false,
      if_neg Bool.false_ne_true]

/-- The kind of a member before its signature is read. -/
def nameKind : Member.Kind :=
  match member.signature with
  | .property _ => .property
  | .method =>
    if member.name.text = "constructor" ∧ member.isPrivateName = false then .constructor
    else .property

theorem signatureKind_nameKind :
    signatureKind (nameKind member) member.signature = member.kind := by
  rw [nameKind, MemberOutline.kind]
  cases member.signature with
  | property type => rfl
  | method =>
    dsimp only [signatureKind]
    split <;> rfl

theorem startsWith_paren_signature (cursor : Cursor) :
    startsWith (.opening .paren) (cursor.terminals (member.signature.print ++ rest)) =
      match member.signature with
      | .property _ => false
      | .method => true := by
  match member.signature with
  | .property none =>
    rw [Signature.print, List.singleton_append, terminals_sign _ (';', .semicolon) (by decide)]
    rfl
  | .property (some type) =>
    rw [Signature.print, annotated_toList, List.cons_append,
      terminals_sign _ (':', .colon) (by decide)]
    rfl
  | .method =>
    rw [Signature.print]
    show startsWith _ (cursor.terminals ('(' :: (") \x7b\x7d".toList ++ rest))) = true
    rw [terminals_sign _ ('(', .opening .paren) (by decide)]
    rfl

theorem parseMemberKind_name (cursor : Cursor) :
    parseMemberKind (cursor.terminals (member.printName ++ (member.signature.print ++ rest))) =
      (nameKind member,
        cursor.terminals (member.printName ++ (member.signature.print ++ rest))) := by
  have hends := endsName_signature member rest
    (cursor.afterName member.isPrivateName member.name)
  have hparen := startsWith_paren_signature member rest
    (cursor.afterName member.isPrivateName member.name)
  rw [terminals_name, nameKind]
  generalize (cursor.afterName member.isPrivateName member.name).terminals
    (member.signature.print ++ rest) = more at hends hparen ⊢
  cases member.isPrivateName with
  | true =>
    have hkind : (match member.signature with
        | .property _ => Member.Kind.property
        | .method =>
          if member.name.text = "constructor" ∧ true = false then .constructor else .property) =
        .property := by
      cases member.signature with
      | property type => rfl
      | method => exact if_neg fun h => Bool.noConfusion h.2
    rw [hkind]
    rfl
  | false =>
    have hindex : startsIndexSignature (cursor.terminal .word member.name.chars :: more) = false := by
      cases more <;> rfl
    simp only [Bool.false_eq_true, if_false, and_true]
    rw [parseMemberKind, hends, Bool.not_true, Bool.and_false, if_neg Bool.false_ne_true, hparen,
      hindex, if_neg Bool.false_ne_true, isWord_terminal]
    cases member.signature with
    | property type => simp
    | method =>
      simp only [Bool.and_true, beq_iff_eq]
      split <;> rfl

theorem parseMemberName_name (cursor : Cursor) :
    parseMemberName (cursor.terminals (member.printName ++ (member.signature.print ++ rest))) =
      .ok (((if member.isPrivateName then "#" else "") ++ member.name.text, member.isPrivateName),
        (cursor.afterName member.isPrivateName member.name).terminals
          (member.signature.print ++ rest)) := by
  have htext := member.name.ofList_chars
  rw [terminals_name]
  cases member.isPrivateName with
  | true =>
    simp only [if_true]
    rw [parseMemberName_cons, kind_terminal]
    dsimp only
    rw [kind_terminal, if_pos rfl, text_terminal, htext]
  | false =>
    simp only [Bool.false_eq_true, if_false]
    rw [parseMemberName_cons, kind_terminal]
    dsimp only
    rw [text_terminal, htext, String.empty_append]

theorem skipNameMark_signature (cursor : Cursor) :
    skipNameMark (cursor.terminals (member.signature.print ++ rest)) =
      cursor.terminals (member.signature.print ++ rest) := by
  obtain ⟨sign, hsign, more, hterminals⟩ := (terminals_signature member.signature rest).2 cursor
  have hsigns : ∀ sign ∈ signatureSigns, (sign.2 == .question) = false ∧ sign.2 ≠ .bang := by
    decide
  obtain ⟨hquestion, hbang⟩ := hsigns sign hsign
  rw [hterminals, skipNameMark, startsWith, kind_terminal, hquestion, if_neg Bool.false_ne_true,
    skipOptional, kind_terminal, if_neg hbang]

/-- No initializer block of the class starts with what is printed of a member. -/
theorem staticBlock?_print (cursor : Cursor) (words : List Identifier) :
    staticBlock? (cursor.terminals
      (spacedWords words ++ (member.printName ++ (member.signature.print ++ rest)))) = none := by
  have hsecond : ∀ {t u : Terminal} {more : List Terminal}, u.kind ≠ .opening .brace →
      staticBlock? (t :: u :: more) = none := by
    intro t u more hu
    rw [staticBlock?, beq_eq_false_iff_ne.2 hu, Bool.and_false, if_neg Bool.false_ne_true]
  cases words with
  | nil =>
    rw [spacedWords, List.flatMap_nil, List.nil_append, terminals_name]
    obtain ⟨sign, hsign, more, hterminals⟩ := (terminals_signature member.signature rest).2
      (cursor.afterName member.isPrivateName member.name)
    have hsigns : ∀ sign ∈ signatureSigns, sign.2 ≠ .opening .brace := by decide
    split
    · exact hsecond (by rw [kind_terminal]; decide)
    · rw [hterminals]
      exact hsecond (hsigns sign hsign)
  | cons word words =>
    rw [spacedWords_cons, List.append_assoc, terminals_spacedWord]
    obtain ⟨kind, text, more, hkind, hterminals⟩ :=
      beginsName_spacedWords words (beginsName_name member rest)
        ((cursor.pass .word word.chars).skip [' '] isSpace_blank)
    rw [hterminals]
    refine hsecond ?_
    rw [kind_terminal]
    rcases hkind with rfl | rfl <;> decide

/-! ## Whole members -/

@[simp] theorem line_afterDecorators (cursor : Cursor) (names : List Identifier) :
    (cursor.afterDecorators names).line = cursor.line + countNewlines (decoratorLines names) := by
  induction names generalizing cursor with
  | nil => rfl
  | cons name names ih =>
    have hline : countNewlines ('@' :: (name.chars ++ ['\n'])) =
        countNewlines ['@'] + (countNewlines name.chars + countNewlines ['\n']) := by
      rw [← countNewlines_append, ← countNewlines_append]
      rfl
    rw [afterDecorators, ih, line_skip, line_pass, line_pass, decoratorLines_cons,
      countNewlines_append, hline]
    omega

@[simp] theorem line_afterWords (cursor : Cursor) (words : List Identifier) :
    (cursor.afterWords words).line = cursor.line + countNewlines (spacedWords words) := by
  induction words generalizing cursor with
  | nil => rfl
  | cons word words ih =>
    rw [afterWords, ih, line_skip, line_pass, spacedWords_cons, countNewlines_append,
      countNewlines_append]
    omega

@[simp] theorem line_afterName (cursor : Cursor) :
    (cursor.afterName member.isPrivateName member.name).line =
      cursor.line + countNewlines member.printName := by
  rw [afterName, MemberOutline.printName, line_pass, countNewlines_append]
  cases member.isPrivateName with
  | true =>
    simp only [if_true, line_pass]
    omega
  | false =>
    simp [countNewlines]

theorem parseUndecorated_print (cursor : Cursor) (doc : Option String)
    (decorators : List Decorator) :
    ∃ next : Cursor, next.comments = [] ∧
      next.line = cursor.line + countNewlines (spacedWords member.words) +
        countNewlines member.printName + countNewlines member.signature.print ∧
      parseUndecorated doc decorators (cursor.terminals (spacedWords member.words ++
          (member.printName ++ (member.signature.print ++ '\n' :: rest)))) =
        .ok (some { member.declaration with decorators, doc }, next.terminals ('\n' :: rest)) := by
  have hwords : ∀ word ∈ member.words, word.text ∈ modifierWords := text_mem_modifierWords _ _ _ _
  have hmodifiers := cursor.parseModifiers_print hwords .none
    (beginsName_name member ('\n' :: rest)) (parseModifiers_name member ('\n' :: rest))
  rw [MemberOutline.words, foldl_keywords, ← MemberOutline.words] at hmodifiers
  let named := cursor.afterWords member.words
  let before := if member.isPrivateName then named.pass .hash ['#'] else named
  obtain ⟨next, hcomments, hline, hsignature⟩ :=
    @parseSignature_print before .word rfl member.name.chars member.signature (nameKind member) rest
  have hafter : before.pass .word member.name.chars =
      named.afterName member.isPrivateName member.name := rfl
  rw [hafter] at hline hsignature
  refine ⟨next, hcomments, ?_, ?_⟩
  · rw [hline, line_afterName, line_afterWords]
  · have hstar : skipOptional .star (named.terminals
        (member.printName ++ (member.signature.print ++ '\n' :: rest))) =
          named.terminals (member.printName ++ (member.signature.print ++ '\n' :: rest)) := by
      obtain ⟨kind, text, more, hkind, hterminals⟩ := beginsName_name member ('\n' :: rest) named
      rw [hterminals, skipOptional, kind_terminal]
      rcases hkind with rfl | rfl <;> rfl
    rw [parseUndecorated, staticBlock?_print]
    dsimp only
    rw [hmodifiers]
    dsimp only
    rw [hstar, parseMemberKind_name, parseMemberName_name, ok_bind]
    dsimp only
    rw [skipNameMark_signature, hsignature, signatureKind_nameKind]
    rfl

/-- The text of a member after its doc block begins with a terminal at the cursor. -/
theorem terminals_member (cursor : Cursor) :
    ∃ kind text more, (kind = .atSign ∨ kind = .word ∨ kind = .hash) ∧
      cursor.terminals (member.print ++ rest) =
        (cursor.afterDoc member.doc).terminal kind text :: more := by
  rw [MemberOutline.print, List.append_assoc, terminals_docLine, List.append_assoc,
    List.append_assoc, List.append_assoc, List.append_assoc]
  exact (cursor.afterDoc member.doc).terminals_decoratorLines member.decorators
    (beginsName_spacedWords _ (beginsName_name member _))

theorem parseMember_print {cursor : Cursor} (hcomments : cursor.comments = []) :
    ∃ next : Cursor, next.comments = [] ∧ next.line = cursor.line + countNewlines member.print ∧
      parseMember (cursor.terminals (member.print ++ rest)) =
        .ok (some member.declaration, next.terminals rest) := by
  obtain ⟨kind, text, more, -, hterminals⟩ := cursor.terminals_member member rest
  have hdoc : (cursor.terminals (member.print ++ rest)).head?.bind Terminal.doc =
      member.doc.map DocText.text := by
    rw [hterminals, List.head?_cons, Option.bind_some, doc_terminal, doc_afterDoc hcomments]
  have hbegins := beginsName_spacedWords member.words (beginsName_name member ('\n' :: rest))
  have hdecorators := (cursor.afterDoc member.doc).parseDecorators_print member.decorators hbegins
  obtain ⟨next, hnext, hline, hmember⟩ := parseUndecorated_print member rest
    ((cursor.afterDoc member.doc).afterDecorators member.decorators)
    (member.doc.map DocText.text) (member.decorators.map MemberOutline.plainDecorator)
  have hprint : cursor.terminals (member.print ++ rest) =
      (cursor.afterDoc member.doc).terminals (decoratorLines member.decorators ++
        (spacedWords member.words ++
          (member.printName ++ (member.signature.print ++ '\n' :: rest)))) := by
    rw [MemberOutline.print, List.append_assoc, terminals_docLine]
    simp only [List.append_assoc, List.singleton_append]
  refine ⟨next.skip ['\n'] isSpace_newline, hnext, ?_, ?_⟩
  · rw [line_skip, hline, line_afterDecorators, line_afterDoc, MemberOutline.print]
    simp only [countNewlines_append]
    omega
  · rw [parseMember, hdoc, hprint, hdecorators, ok_bind]
    dsimp only
    rw [hmember, ← List.singleton_append, terminals_skip _ isSpace_newline]
    rfl

/-- Members in a row are read up to the brace that closes their class. -/
theorem parseMembers_print (opener : Terminal) (members : List MemberOutline) {cursor : Cursor}
    (hcomments : cursor.comments = []) :
    ∃ next : Cursor, next.comments = [] ∧
      next.line = cursor.line + countNewlines (members.flatMap MemberOutline.print) ∧
      parseMembers opener
          (cursor.terminals (members.flatMap MemberOutline.print ++ '\x7d' :: rest)) =
        .ok (members.map MemberOutline.declaration, next.terminals rest) := by
  induction members generalizing cursor with
  | nil =>
    refine ⟨cursor.pass (.closing .brace) ['\x7d'], rfl, rfl, ?_⟩
    rw [List.flatMap_nil, List.nil_append, terminals_sign _ ('\x7d', .closing .brace) (by decide),
      parseMembers_cons]
    rfl
  | cons member members ih =>
    rw [List.flatMap_cons, List.append_assoc]
    obtain ⟨kind, text, more, hkind, hterminals⟩ := cursor.terminals_member member
      (members.flatMap MemberOutline.print ++ '\x7d' :: rest)
    obtain ⟨middle, hmiddle, hmiddleLine, hmember⟩ :=
      parseMember_print member (members.flatMap MemberOutline.print ++ '\x7d' :: rest) hcomments
    obtain ⟨next, hnext, hline, hmembers⟩ := ih hmiddle
    have hsemicolon : kind ≠ .semicolon := by
      rcases hkind with rfl | rfl | rfl <;> decide
    have hbrace : kind ≠ .closing .brace := by
      rcases hkind with rfl | rfl | rfl <;> decide
    refine ⟨next, hnext, ?_, ?_⟩
    · rw [hline, hmiddleLine, countNewlines_append, Nat.add_assoc]
    · rw [hterminals, parseMembers_cons, kind_terminal, if_neg hsemicolon, if_neg hbrace,
        ← hterminals, hmember, ok_bind]
      dsimp only
      rw [hmembers]
      rfl

end Cursor

end ComponentDocs
