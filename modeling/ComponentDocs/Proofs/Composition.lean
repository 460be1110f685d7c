import ComponentDocs.Proofs.Declaration.Moved
import ComponentDocs.Proofs.Declaration.Edge

/-!
# Source texts in two parts

A source text that ends with a semicolon or a closing brace can be read apart from what follows on
the next lines: `SourceFile.parse_append_newline`.

Three facts meet there.  The tokens of the first part stay as they are when a line feed follows
(`Token.scanFrom_append_newline`).  Its declarations do not depend on what comes behind
(`Declaration.value_parseDeclarations_append`).  The second part is read as if it stood alone,
further down (`Declaration.MovedFile.value_parseDeclarations`), although its first terminal now
starts a line: no parser looks at that.
-/

namespace ComponentDocs

/-! ## The first terminal of a declaration -/

namespace Terminal

/-- Two terminals that differ in the space before them only. -/
structure SameButSpace (t u : Terminal) : Prop where
  kind : u.kind = t.kind
  text : u.text = t.text
  line : u.line = t.line
  doc : u.doc = t.doc

variable {t u : Terminal}

theorem SameButSpace.isWord (h : SameButSpace t u) (word : String) :
    u.isWord word = t.isWord word := by
  simp only [Terminal.isWord, h.kind, h.text]

theorem SameButSpace.atTerminal (h : SameButSpace t u) (cause : Fault.Cause) :
    Fault.atTerminal u cause = Fault.atTerminal t cause := by
  simp only [Fault.atTerminal, h.line]

end Terminal

namespace Declaration

open Terminal

variable {t u : Terminal} {rest : List Terminal}

theorem closeBrackets_sameButSpace (h : SameButSpace t u) (awaited : List Bracket)
    (ts : List Terminal) : closeBrackets u awaited ts = closeBrackets t awaited ts := by
  fun_induction closeBrackets t awaited ts with
  | case1 => rw [closeBrackets]
  | case2 => rw [closeBrackets, h.atTerminal, h.text]
  | case3 awaited outer t' rest bracket hkind ih =>
    rw [closeBrackets]
    simp only [hkind, ih]
  | case4 outer t' rest bracket hkind ih =>
    rw [closeBrackets]
    simp only [hkind, if_true, ih]
  | case5 awaited outer t' rest bracket hkind hbracket =>
    rw [closeBrackets]
    simp only [hkind, if_neg hbracket]
  | case6 awaited outer t' rest hopening hclosing ih =>
    rw [closeBrackets]
    split
    · rename_i hkind; exact absurd hkind (hopening _)
    · rename_i hkind; exact absurd hkind (hclosing _)
    · exact ih

theorem skipItem_sameButSpace (h : SameButSpace t u) (ts : List Terminal) :
    skipItem u ts = skipItem t ts := by
  rw [skipItem, skipItem, h.kind]
  split
  · exact closeBrackets_sameButSpace h _ ts
  · rfl

theorem skipStatement_sameButSpace (h : SameButSpace t u) (ts : List Terminal) :
    skipStatement false (u :: ts) = skipStatement false (t :: ts) := by
  rw [skipStatement_cons, skipStatement_cons, Bool.false_and, Bool.false_and, h.kind, h.text,
    h.atTerminal, skipItem_sameButSpace h]
  rfl

/-- The preamble takes up the first terminal, or there is none. -/
theorem parsePreamble_sameButSpace (h : SameButSpace t u) (rest : List Terminal) :
    parsePreamble (u :: rest) = parsePreamble (t :: rest) ∨
      parsePreamble (u :: rest) = .ok ([], u :: rest) ∧
        parsePreamble (t :: rest) = .ok ([], t :: rest) := by
  by_cases hsign : t.kind = .atSign
  · refine .inl ?_
    rw [parsePreamble, parsePreamble, parseDecorators_cons, parseDecorators_cons, h.kind,
      parseDecorator_head h.text]
    simp only [if_pos hsign]
  · have hdecorators : ∀ {v : Terminal}, v.kind = t.kind →
        parseDecorators (v :: rest) = .ok ([], v :: rest) := fun hkind => by
      rw [parseDecorators_cons, hkind, if_neg hsign]
    rw [parsePreamble, parsePreamble, hdecorators h.kind, hdecorators rfl]
    dsimp only [ok_bind]
    rw [skipExportWords, skipExportWords, h.isWord, h.isWord, h.isWord, h.isWord]
    split
    · exact .inl rfl
    · split
      · exact .inl rfl
      · refine .inr ?_
        rw [hdecorators h.kind, hdecorators rfl]
        exact ⟨rfl, rfl⟩

/-- The space before a declaration does not matter, nor does whether it starts a line. -/
theorem value_parseDeclaration_sameButSpace (h : SameButSpace t u) (rest : List Terminal) :
    (parseDeclaration u rest).value = (parseDeclaration t rest).value := by
  have hstart : ∀ (decorators : List Decorator) (ts : List Terminal),
      parseClassOrStatement u decorators ts = parseClassOrStatement t decorators ts := by
    intro decorators ts
    simp only [parseClassOrStatement, h.line, h.doc]
  rw [value_parseDeclaration, value_parseDeclaration]
  rcases parsePreamble_sameButSpace h rest with heq | ⟨hu, ht⟩
  · simp only [heq, hstart]
  · rw [hu, ht]
    dsimp only [ok_bind]
    rw [hstart, parseClassOrStatement, parseClassOrStatement, h.isWord, skipStatement_sameButSpace h]

/-! ## The second part of a text -/

/-- Two files of which the second is the first further down, but for the space before it. -/
inductive MovedFile (lines : Nat) : List Terminal → List Terminal → Prop
  | nil : MovedFile lines [] []
  | cons {t u : Terminal} {rest others : List Terminal} (hkind : u.kind = t.kind)
      (htext : u.text = t.text) (hdoc : u.doc = t.doc) (hline : u.line = t.line + lines)
      (hnewline : u.newlineBefore = true) (hrest : List.Forall₂ (MovedDown lines) rest others) :
      MovedFile lines (t :: rest) (u :: others)

theorem MovedFile.atLineEnd {lines : Nat} {ts us : List Terminal} (h : MovedFile lines ts us) :
    atLineEnd us = true := by
  cases h with
  | nil => rfl
  | cons _ _ _ _ hnewline _ => exact hnewline

theorem MovedFile.value_parseDeclarations {lines : Nat} {ts us : List Terminal}
    (h : MovedFile lines ts us) :
    (parseDeclarations us).value =
      ((parseDeclarations ts).value.map (List.map (ClassDecl.moveDown lines))).mapError
        (Fault.moveDown lines) := by
  cases h with
  | nil => exact value_parseDeclarations_movedDown .nil
  | @cons t u rest others hkind htext hdoc hline hnewline hrest =>
    -- The first terminal of `ts`, moved down with its space.
    let first : Terminal := { t with token := t.token.move lines 0 }
    have hfirst : MovedDown lines t first := ⟨rfl, rfl, rfl, rfl, rfl, rfl⟩
    have hsame : SameButSpace first u := ⟨hkind, htext, hline, hdoc⟩
    rw [← value_parseDeclarations_movedDown (.cons hfirst hrest), value_parseDeclarations_cons,
      value_parseDeclarations_cons, value_parseDeclaration_sameButSpace hsame]

end Declaration

namespace Terminal

open Declaration

theorem movedFile_attach {lines : Nat} {comment comment' : Token} {ts us : List Terminal}
    (h : MovedFile lines ts us) (hkind : comment'.kind = comment.kind)
    (htext : comment'.text = comment.text) :
    MovedFile lines (attach comment ts) (attach comment' us) := by
  cases h with
  | nil => exact .nil
  | cons hkind' htext' hdoc hline hnewline hrest =>
    have hdocBlock : comment'.isDocBlock = comment.isDocBlock := by
      simp only [Token.isDocBlock, hkind, htext]
    refine .cons hkind' htext' ?_ hline hnewline hrest
    rw [doc_attach, doc_attach, hdoc, hdocBlock, htext]

end Terminal

namespace Token

open Text Terminal Declaration

/-- A text at the start of a line further down, with blank space `lead` before it.  Up to the first
token that is not a comment a slash begins an expression in both places; after it both are in the
same state. -/
theorem movedFile_scanFrom {lines bytes : Nat} {context below : Context} {lead : List Char}
    (cs : List Char) (hlead : ∀ c ∈ lead, isSpace c = true) (hoperand : context.operandNext = true)
    (hline : (below.skip lead).line = context.line + lines)
    (hoffset : (below.skip lead).offset = context.offset + bytes)
    (hnewline : (below.skip lead).newline = true) :
    MovedFile lines (ofTokens (scanFrom context cs)) (ofTokens (scanFrom below (lead ++ cs))) := by
  induction context, cs using scan_induction generalizing below lead with
  | blank context space hspace =>
    have hblank : ∀ c ∈ lead ++ space, isSpace c = true := by
      intro c hc
      rcases List.mem_append.1 hc with hc | hc
      · exact hlead c hc
      · exact hspace c hc
    rw [scanFrom_blank hspace, scanFrom_blank hblank]
    exact .nil
  | token context space c body tail kind hspace hc hextent ih =>
    have hblank : ∀ c ∈ lead ++ space, isSpace c = true := by
      intro c hc
      rcases List.mem_append.1 hc with hc | hc
      · exact hlead c hc
      · exact hspace c hc
    have hskip : below.skip (lead ++ space) = (below.skip lead).skip space :=
      Context.skip_append below lead space
    have hnewlineSkip : (below.skip (lead ++ space)).newline = true := by
      rw [hskip, Context.skip, hnewline, Bool.true_or]
    have hallowed : (below.skip (lead ++ space)).regexAllowed =
        (context.skip space).regexAllowed := by
      rw [Context.regexAllowed_eq, Context.regexAllowed_eq, hnewlineSkip,
        Context.operandNext_skip context space, hoperand, Bool.true_or, Bool.or_true]
    have hlineAfter : (below.after (lead ++ space) kind (c :: body)).line =
        (context.after space kind (c :: body)).line + lines := by
      rw [Context.after_line, Context.after_line, countNewlines_append]
      simp only [Context.skip] at hline
      omega
    have hoffsetAfter : (below.after (lead ++ space) kind (c :: body)).offset =
        (context.after space kind (c :: body)).offset + bytes := by
      rw [Context.after_offset, Context.after_offset, byteSize_append]
      simp only [Context.skip] at hoffset
      omega
    rw [scanFrom_token hspace hc hextent, ← List.append_assoc,
      scanFrom_token hblank hc (hallowed ▸ hextent), ofTokens, ofTokens, Context.tokenAfter_kind,
      Context.tokenAfter_kind]
    cases hcomment : kind.isComment with
    | true =>
      have hnewlineAfter : (below.after (lead ++ space) kind (c :: body)).newline = true := by
        rw [Context.newline_after, hcomment, hnewlineSkip, Bool.true_or, Bool.and_true]
      have hoperandAfter : (context.after space kind (c :: body)).operandNext = true := by
        rw [Context.operandNext_after_comment hcomment, hoperand]
      rw [← Context.skip_nil (below.after _ _ _)] at hlineAfter hoffsetAfter hnewlineAfter
      exact movedFile_attach (ih (List.forall_mem_nil _) hoperandAfter hlineAfter hoffsetAfter
        hnewlineAfter) rfl rfl
    | false =>
      have hmoved : Context.Moved lines bytes (context.after space kind (c :: body))
          (below.after (lead ++ space) kind (c :: body)) := by
        refine ⟨hoffsetAfter, hlineAfter, ?_, ?_⟩
        · rw [Context.newline_after, Context.newline_after, hcomment, Bool.false_and,
            Bool.false_and]
        · rw [Context.operandNext_after hcomment, Context.operandNext_after hcomment]
          exact beginsOperand_congr rfl rfl
      rw [hmoved.scanFrom_eq]
      refine .cons rfl rfl rfl ?_ hnewlineSkip (forall₂_ofTokens_move lines bytes _)
      show (below.skip (lead ++ space)).line = (context.skip space).line + lines
      rw [hskip]
      simp only [Context.skip] at hline ⊢
      omega

end Token

namespace SourceFile

open Token Terminal Declaration Text

/-- The last token of a text, comments included, is a semicolon or a closing brace, if there is
one. -/
def EndsStatement (text : String) : Prop :=
  ∀ last ∈ (scan text).getLast?, last.kind = .semicolon ∨ last.kind = .closing .brace

instance (text : String) : Decidable (EndsStatement text) :=
  inferInstanceAs (Decidable (∀ last ∈ (scan text).getLast?,
    last.kind = .semicolon ∨ last.kind = .closing .brace))

/-- The terminals of a text that ends a statement, with more tokens behind it. -/
theorem ofTokens_append_of_endsStatement {text : String} (hend : EndsStatement text)
    (more : List Token) :
    (ofTokens (scan text) = [] ∨ Closed (ofTokens (scan text))) ∧
      ofTokens (scan text ++ more) = ofTokens (scan text) ++ ofTokens more := by
  rcases List.eq_nil_or_concat (scan text) with hnil | ⟨tokens, last, hconcat⟩
  · rw [hnil]
    exact ⟨.inl rfl, rfl⟩
  · have hkind := hend last (by rw [hconcat, List.concat_eq_append, List.getLast?_concat]; rfl)
    have hcomment : last.kind.isComment = false := by
      rcases hkind with hkind | hkind <;> rw [hkind] <;> rfl
    obtain ⟨before, comments, hleft, hboth⟩ := ofTokens_concat_append hcomment tokens more
    rw [hconcat, List.concat_eq_append, hleft, hboth]
    exact ⟨.inr ⟨_, hkind, List.suffix_append before _⟩, by rw [List.append_assoc]; rfl⟩

/-- The terminals of a text that is followed by a line feed and more text: those of the text, and
those of what follows, further down. -/
theorem ofTokens_scan_append_newline {text : String} (more : String)
    (herror : ∀ token ∈ scan text, token.kind ≠ .error) (hend : EndsStatement text) :
    ∃ us, MovedFile (lastLine text) (ofTokens (scan more)) us ∧
      ofTokens (scan (text ++ "\n" ++ more)) = ofTokens (scan text) ++ us := by
  obtain ⟨final, space, hspace, hline, hoffset, hscan⟩ := scanFrom_append_newline herror
  have hlist : (text ++ "\n" ++ more).toList = text.toList ++ '\n' :: more.toList := by
    simp only [String.toList_append, List.append_assoc]
    rfl
  refine ⟨ofTokens (scanFrom final (space ++ '\n' :: more.toList)), ?_, ?_⟩
  · have hlead : ∀ c ∈ space ++ ['\n'], isSpace c = true := by
      intro c hc
      rcases List.mem_append.1 hc with hc | hc
      · exact hspace c hc
      · rw [List.mem_singleton.1 hc]
        rfl
    have hlineBelow : (final.skip (space ++ ['\n'])).line =
        Context.start.line + lastLine text := by
      rw [Context.skip, countNewlines_append, ← Nat.add_assoc, hline, Nat.add_assoc]
      rfl
    have hoffsetBelow : (final.skip (space ++ ['\n'])).offset =
        Context.start.offset + (byteSize text.toList + 1) := by
      rw [Context.skip, byteSize_append, ← Nat.add_assoc, hoffset, Nat.add_assoc]
      rfl
    have hnewlineBelow : (final.skip (space ++ ['\n'])).newline = true := by
      simp [Context.skip]
    rw [List.append_cons]
    exact movedFile_scanFrom more.toList hlead rfl hlineBelow hoffsetBelow hnewlineBelow
  · rw [scan, hlist, hscan]
    exact (ofTokens_append_of_endsStatement hend _).2

/-- A text that is accepted and ends a statement, a line feed and any other text: the classes are
those of the first followed by those of the second, which stand further down, and a fault of the
second is the fault of both. -/
theorem parse_append_newline {name text : String} {file : SourceFile}
    (haccepted : (parse name text).value = .ok file)
    (herror : ∀ token ∈ scan text, token.kind ≠ .error) (hend : EndsStatement text)
    (more : String) :
    (parse name (text ++ "\n" ++ more)).value =
      match (parse name more).value with
      | .ok found =>
        .ok ⟨name, file.classes ++
          found.classes.map (ClassDecl.moveDown (countNewlines text.toList + 1))⟩
      | .error e => .error (e.moveDown (countNewlines text.toList + 1)) := by
  obtain ⟨us, hmoved, hterminals⟩ := ofTokens_scan_append_newline more herror hend
  have hclosed := (ofTokens_append_of_endsStatement hend []).1
  cases hclasses : (parseDeclarations (ofTokens (scan text))).value with
  | error fault =>
    rw [parse, hclasses] at haccepted
    cases haccepted
  | ok classes =>
    rw [parse, hclasses] at haccepted
    cases haccepted
    have happend := value_parseDeclarations_append hmoved.atLineEnd hclosed hclasses
    rw [← hterminals, hmoved.value_parseDeclarations] at happend
    rw [parse, parse]
    dsimp only
    rw [happend]
    cases (parseDeclarations (ofTokens (scan more))).value with
    | ok found => rfl
    | error fault =>
      obtain ⟨line, cause⟩ := fault
      cases line with
      | some line => rfl
      | none =>
        -- Past the end of the second part is past the end of both.
        have hlast : lastLine (text ++ "\n" ++ more) =
            lastLine more + (countNewlines text.toList + 1) := by
          simp only [lastLine, String.toList_append, countNewlines_append]
          have hnewline : countNewlines "\n".toList = 1 := rfl
          omega
        exact congrArg (fun line => Except.error (SyntaxError.mk name line cause)) hlast

/-- The second text starts with a slash, which after a class body opens a regular expression. -/
theorem parse_append_newline_slash :
    (parse "a.ts" "class A \x7b\n\x7d").value = .ok ⟨"a.ts", [⟨"A", 1, none, [], none, []⟩]⟩ ∧
      EndsStatement "class A \x7b\n\x7d" ∧
      (parse "a.ts" ("class A \x7b\n\x7d" ++ "\n" ++ "/\x7b/.test(x)\n/** d */ class B \x7b\x7d")).value =
        .ok ⟨"a.ts", [⟨"A", 1, none, [], none, []⟩, ⟨"B", 4, some "/** d */", [], none, []⟩]⟩ := by
  have haccepted : (parse "a.ts" "class A \x7b\n\x7d").value =
      .ok ⟨"a.ts", [⟨"A", 1, none, [], none, []⟩]⟩ := by decide +kernel
  have hend : EndsStatement "class A \x7b\n\x7d" := by decide +kernel
  refine ⟨haccepted, hend, ?_⟩
  rw [parse_append_newline haccepted (by decide +kernel) hend]
  decide +kernel

end SourceFile

end ComponentDocs
