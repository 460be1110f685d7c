import ComponentDocs.Proofs.Declaration.AppendClass
import ComponentDocs.Proofs.Declaration.Moved
import ComponentDocs.Proofs.Outline.Basic

/-!
# Doc blocks and types in place

A doc block and a type are given by the way they are read when they stand alone.  Here they are
read in the middle of a text: a doc block is passed as one comment wherever it stands
(`Cursor.terminals_doc`), and a type is read to the semicolon behind it, with any text on the next
lines (`Cursor.parsePropertyType_print`).
-/

namespace ComponentDocs

open Text Token Terminal Declaration

/-! ## Doc blocks -/

/-- A text that is one token is this token from its first character to its end. -/
theorem extent_eq_of_scan_eq {c : Char} {body : List Char} {token : Token} (hc : isSpace c = false)
    (hscan : scanFrom .start (c :: body) = [token]) (htext : token.text.toList = c :: body) :
    extent true c body = (token.kind, body.length) := by
  generalize hfound : extent true c body = found
  have hsplit := List.take_append_drop found.2 body
  have hlength : found.2 = (body.take found.2).length :=
    (List.length_take_of_le (hfound ▸ extent_le _ _ _)).symm
  have hscanned := @scanFrom_token .start [] (body.take found.2) (body.drop found.2) c found.1
    (List.forall_mem_nil _) hc (by rw [hsplit, ← hlength]; exact hfound)
  rw [hsplit, List.nil_append, hscan] at hscanned
  have htoken := (List.cons.inj hscanned).1
  have hwhole : body.take found.2 = body := by
    rw [htoken, Context.tokenAfter_text, String.toList_ofList] at htext
    exact (List.cons.inj htext).2
  rw [hwhole] at hlength
  exact Prod.ext (by rw [htoken]; rfl) hlength

/-- A block comment ends where it ends, whatever stands around it. -/
theorem extent_blockComment_append {body : List Char} {n : Nat}
    (h : extent true '/' ('*' :: body) = (.blockComment, n)) (regexAllowed : Bool)
    (rest : List Char) : extent regexAllowed '/' ('*' :: body ++ rest) = (.blockComment, n) := by
  have hslash : ∀ regexAllowed body, extent regexAllowed '/' ('*' :: body) =
      slashExtent regexAllowed ('*' :: body) := fun _ _ => rfl
  rw [hslash, slashExtent] at h
  rw [List.cons_append, hslash, slashExtent]
  cases hclose : Literal.blockCommentLength? body with
  | none =>
    rw [hclose] at h
    cases h
  | some n =>
    rw [hclose] at h
    rw [Literal.blockCommentLength?_append hclose rest]
    exact h

namespace DocText

/-- A doc block is a block comment to its end, wherever it stands. -/
theorem extent_chars (doc : DocText) :
    ∃ body, doc.text.toList = '/' :: body ∧
      ∀ regexAllowed rest,
        extent regexAllowed '/' (body ++ rest) = (.blockComment, body.length) := by
  obtain ⟨text, token, hscan, hdoc, rfl⟩ := doc
  simp only [isDocBlock, Bool.and_eq_true, beq_iff_eq] at hdoc
  obtain ⟨⟨hkind, hopen⟩, -⟩ := hdoc
  obtain ⟨comment, hcomment⟩ := List.isPrefixOf_iff_prefix.1 hopen
  have htext : token.text.toList = '/' :: '*' :: '*' :: comment := hcomment.symm
  rw [scan, htext] at hscan
  have hextent := extent_eq_of_scan_eq rfl hscan htext
  rw [hkind] at hextent
  exact ⟨_, htext, extent_blockComment_append hextent⟩

end DocText

namespace Cursor

theorem terminals_doc (cursor : Cursor) (doc : DocText) (rest : List Char) :
    cursor.terminals (doc.text.toList ++ rest) =
      (cursor.note .blockComment doc.text.toList).terminals rest := by
  obtain ⟨body, hbody, hextent⟩ := doc.extent_chars
  rw [hbody]
  exact cursor.terminals_comment rfl rfl fun regexAllowed => hextent regexAllowed rest

/-- The cursor after a doc block on a line of its own. -/
def afterDoc (cursor : Cursor) : Option DocText → Cursor
  | none => cursor
  | some doc => (cursor.note .blockComment doc.text.toList).skip ['\n'] isSpace_newline

theorem terminals_docLine (cursor : Cursor) (doc : Option DocText) (rest : List Char) :
    cursor.terminals (docLine doc ++ rest) = (cursor.afterDoc doc).terminals rest := by
  cases doc with
  | none => rfl
  | some doc =>
    rw [docLine, List.append_assoc, terminals_doc, terminals_skip _ isSpace_newline]
    rfl

@[simp] theorem line_afterDoc (cursor : Cursor) (doc : Option DocText) :
    (cursor.afterDoc doc).line = cursor.line + countNewlines (docLine doc) := by
  cases doc with
  | none => rfl
  | some doc =>
    rw [afterDoc, line_skip, line_note, docLine, countNewlines_append, Nat.add_assoc]

/-- A doc block belongs to the terminal after it. -/
theorem doc_afterDoc {cursor : Cursor} (hcomments : cursor.comments = []) (doc : Option DocText) :
    (cursor.afterDoc doc).doc = doc.map DocText.text := by
  cases doc with
  | none =>
    rw [afterDoc, Cursor.doc, hcomments]
    rfl
  | some doc =>
    let comment := cursor.context.tokenAfter cursor.space .blockComment doc.text.toList
    have htext : comment.text = doc.text := String.ofList_toList
    have hdoc : comment.isDocBlock = true := by
      obtain ⟨token, -, hdoc, htoken⟩ := doc.isDocText
      rw [isDocBlock, htoken] at hdoc
      simp only [Bool.and_eq_true] at hdoc
      rw [isDocBlock, htext, hdoc.1.2, hdoc.2]
      rfl
    have hafter : (cursor.afterDoc (some doc)).comments = [comment] := by
      show cursor.comments ++ [comment] = [comment]
      rw [hcomments, List.nil_append]
    rw [Cursor.doc, hafter, List.reverse_singleton, List.find?_cons_of_pos hdoc, Option.map_some,
      htext]
    rfl

end Cursor

/-! ## Types -/

theorem annotated_toList (type : String) :
    (annotated type).toList = ':' :: (' ' :: type.toList ++ [';']) := by
  simp only [annotated, String.toList_append]
  rfl

/-- A colon is one token, and it may be followed by an operand. -/
theorem scanFrom_colon_cons (context : Context) (cs : List Char) :
    scanFrom context (':' :: cs) =
      context.tokenAfter [] .colon [':'] :: scanFrom (context.after [] .colon [':']) cs :=
  @scanFrom_token context [] [] cs ':' .colon (List.forall_mem_nil _) rfl rfl

namespace IsTypeText

variable {text : String}

/-- Between a colon and a semicolon there is the type with blank space around it. -/
theorem trim_spelling {context : Context} {first stop : Token} {tokens : List Token}
    {before : List Terminal}
    (hscan : scanFrom context (' ' :: text.toList ++ [';']) = first :: (tokens ++ [stop]))
    (hstop : stop.kind = .semicolon)
    (hbefore : ofTokens (tokens ++ [stop]) = before ++ [⟨[], stop⟩]) :
    trim (spelling (⟨[], first⟩ :: before)) = trim text.toList := by
  have hblank : ∀ token ∈ first :: (tokens ++ [stop]), ∀ c ∈ token.leading.toList,
      isBlank c = true := by
    rw [← hscan]
    exact fun token htoken c hc => isBlank_of_isSpace (isSpace_leading htoken c hc)
  have hlast : stop ∈ first :: (tokens ++ [stop]) := by simp
  have hstopText : stop.text = ";" := by
    rw [← hscan] at hlast
    exact text_semicolon hlast hstop
  have hkind : stop.kind.isComment = false := by
    rw [hstop]
    rfl
  obtain ⟨space, hspace, hsource⟩ := flatMap_spelling_scanFrom context (' ' :: text.toList ++ [';'])
  have hsplit : ' ' :: text.toList ++ [';'] =
      first.leading.toList ++ (spelling (⟨[], first⟩ :: before) ++ stop.leading.toList) ++
        ';' :: space := by
    rw [hsource, hscan, List.flatMap_cons, ← flatMap_ofTokens hkind tokens, hbefore]
    simp [Terminal.spelling, Token.spelling, Terminal.leading, Terminal.text, hstopText]
  -- The semicolon ends the text, so no blank space is left behind it.
  obtain rfl : space = [] := by
    rcases List.eq_nil_or_concat space with rfl | ⟨others, c, rfl⟩
    · rfl
    · rw [List.concat_eq_append, ← List.cons_append, ← List.append_assoc] at hsplit
      obtain rfl := List.singleton_inj.1 (List.append_inj_right' hsplit rfl)
      exact absurd (hspace ';' (by simp)) (by decide)
  have htext := List.append_inj_left' hsplit rfl
  calc trim (spelling (⟨[], first⟩ :: before))
      = trim (spelling (⟨[], first⟩ :: before) ++ stop.leading.toList) :=
        (trim_append_blank (hblank stop hlast) _).symm
    _ = trim (' ' :: text.toList) := by
        rw [htext, trim_blank_append (hblank first List.mem_cons_self)]
    _ = trim text.toList := @trim_blank_append [' '] (List.forall_mem_singleton.2 rfl) _

theorem exists_scan_eq (h : IsTypeText text) :
    ∃ tokens last, scan (annotated text) = tokens ++ [last] ∧ last.kind.isComment = false := by
  obtain ⟨colon, first, tokens, stop, hscan, -, hstop, -⟩ := h.skipType_eq
  refine ⟨colon :: first :: tokens, stop, hscan, ?_⟩
  rw [hstop]
  rfl

/-- The text itself is what is kept of the type. -/
theorem parsePropertyType_eq (h : IsTypeText text) :
    ∃ stop : Terminal, stop.kind = .semicolon ∧
      parsePropertyType (ofTokens (scan (annotated text))) = .ok (some text, [stop]) := by
  obtain ⟨colon, first, tokens, stop, hscan, hfirst, hstop, hskip⟩ := h.skipType_eq
  have hkind : stop.kind.isComment = false := by
    rw [hstop]
    rfl
  obtain ⟨before, comments, hbefore, -⟩ := ofTokens_concat_append hkind tokens []
  have hterminals : ofTokens (first :: (tokens ++ [stop])) =
      ⟨[], first⟩ :: before ++ [⟨comments, stop⟩] := by
    rw [ofTokens, hfirst, hbefore]
    rfl
  -- The place where the type ends is the last terminal, so no comment stands before it.
  obtain rfl : comments = [] := by
    have hsuffix := skipType_suffix hskip
    rw [hterminals] at hsuffix
    simpa using hsuffix
  have hcolon := scanFrom_colon_cons .start (' ' :: text.toList ++ [';'])
  rw [← annotated_toList, ← scan, hscan] at hcolon
  obtain ⟨rfl, htokens⟩ := List.cons.inj hcolon
  refine ⟨⟨[], stop⟩, hstop, ?_⟩
  rw [hscan, ofTokens, Context.tokenAfter_kind, if_neg (by decide), parsePropertyType,
    Terminal.kind, Context.tokenAfter_kind, if_pos rfl, hskip, ok_bind, hterminals,
    capture_left, trim_spelling htokens.symm hstop hbefore, h.trim_eq, String.ofList_toList]
  rfl

theorem scan_annotated_identifier (name : Identifier) :
    ∃ first stop : Context, scan (annotated name.text) =
      [Context.start.tokenAfter [] .colon [':'], first.tokenAfter [' '] .word name.chars,
        stop.tokenAfter [] .semicolon [';']] := by
  obtain ⟨c, body, hchars, hc, hextent⟩ := Cursor.extent_identifier name
  refine ⟨Context.start.after [] .colon [':'],
    (Context.start.after [] .colon [':']).after [' '] .word name.chars, ?_⟩
  have hword := @scanFrom_token (Context.start.after [] .colon [':']) [' '] body [';'] c .word
    Cursor.isSpace_blank hc (hextent _ (by rintro d ⟨⟩; rfl))
  have hstop : ∀ context : Context, scanFrom context [';'] =
      [context.tokenAfter [] .semicolon [';']] := by
    intro context
    have htoken := @scanFrom_token context [] [] [] ';' .semicolon (List.forall_mem_nil _) rfl rfl
    rwa [scanFrom_blank (List.forall_mem_nil _)] at htoken
  rw [hstop, ← hchars, List.singleton_append, ← List.cons_append, ← hchars] at hword
  rw [scan, annotated_toList, scanFrom_colon_cons]
  exact congrArg _ hword

/-- A type of one word ends at the semicolon behind it. -/
theorem skipType_word {word stop : Terminal} (hword : word.kind = .word)
    (hoperator : word.text ∉ typeOperators) (hstop : stop.kind = .semicolon) :
    skipType [word, stop] = .ok [stop] := by
  have hjoin : word.isOperator "|" = false ∧ word.isOperator "&" = false := by
    simp [isOperator, hword]
  have hindex : ¬(stop.kind = .opening .square ∧ stop.newlineBefore = false) := by
    simp [hstop]
  have hname : skipTypeName [stop] = .ok [stop] := by
    rw [skipTypeName, skipQualifiers_cons, hstop, if_neg (by decide), ok_bind, skipOptionalAngles,
      hstop, if_neg (by decide)]
  have hpart : skipTypePart [word, stop] = .ok [stop] := by
    rw [skipTypePart_cons, hword]
    dsimp only
    rw [if_neg (by simpa using hoperator), hname, ok_bind]
    simp [isWord, hstop]
  rw [skipType, hjoin.1, hjoin.2, Bool.or_false, if_neg Bool.false_ne_true, skipTypeParts_eq, hpart,
    ok_bind, skipIndexes_cons, if_neg hindex, ok_bind]
  simp [isTypeJoin, isOperator, hstop]

/-- A name that is no type operator is a type. -/
theorem of_identifier (name : Identifier) (hname : name.text ∉ typeOperators) :
    IsTypeText name.text := by
  obtain ⟨first, stop, hscan⟩ := scan_annotated_identifier name
  refine ⟨?_, ?_, _, _, [], _, hscan, rfl, rfl, skipType_word rfl ?_ rfl⟩
  · exact trim_eq_self fun c hc => isBlank_of_isWordPart (name.isWordPart_of_mem hc)
  · rw [hscan]
    simp
  · rw [Terminal.text, Context.tokenAfter_text, Identifier.ofList_chars]
    exact hname

end IsTypeText

namespace TypeText

/-- The point before every text, at line zero. -/
def origin : Context :=
  ⟨0, 0, false, none⟩

/-- A colon is the same token wherever it stands, and an operand may follow it. -/
theorem scanFrom_colon {context : Context} (hnewline : context.newline = false) (cs : List Char) :
    scanFrom context (':' :: cs) =
      (scanFrom origin (':' :: cs)).map (move context.line context.offset) := by
  have hmoved : Context.Moved context.line context.offset (origin.after [] .colon [':'])
      (context.after [] .colon [':']) := by
    refine ⟨?_, ?_, rfl, rfl⟩
    · simp only [Context.after_offset, origin]
      omega
    · simp only [Context.after_line, origin]
      omega
  have htoken : context.tokenAfter [] .colon [':'] =
      (origin.tokenAfter [] .colon [':']).move context.line context.offset := by
    simp [Context.tokenAfter, Context.token, move, origin, hnewline]
  rw [scanFrom_colon_cons context, scanFrom_colon_cons origin, hmoved.scanFrom_eq, htoken,
    List.map_cons]

theorem scanFrom_annotated (type : String) {context : Context}
    (hnewline : context.newline = false) :
    scanFrom context (annotated type).toList =
      (scanFrom origin (annotated type).toList).map (move context.line context.offset) := by
  rw [annotated_toList]
  exact scanFrom_colon hnewline _

/-- A type behind a name has no error token wherever it stands. -/
theorem ne_error_scanFrom (type : TypeText) {context : Context}
    (hnewline : context.newline = false) :
    ∀ token ∈ scanFrom context (annotated type.text).toList, token.kind ≠ .error := by
  have herror := type.isTypeText.ne_error
  rw [scan, scanFrom_annotated _ rfl] at herror
  rw [scanFrom_annotated _ hnewline]
  intro token htoken
  obtain ⟨original, horiginal, rfl⟩ := List.mem_map.1 htoken
  exact herror (original.move Context.start.line Context.start.offset)
    (List.mem_map_of_mem horiginal)

/-- The last token behind a type is no comment wherever it stands. -/
theorem scanFrom_eq_concat (type : TypeText) {context : Context}
    (hnewline : context.newline = false) :
    ∃ tokens last, scanFrom context (annotated type.text).toList = tokens ++ [last] ∧
      last.kind.isComment = false := by
  obtain ⟨tokens, last, hscan, hlast⟩ := type.isTypeText.exists_scan_eq
  rw [scan, scanFrom_annotated _ rfl] at hscan
  rw [scanFrom_annotated _ hnewline]
  generalize scanFrom origin (annotated type.text).toList = found at hscan ⊢
  rcases List.eq_nil_or_concat found with rfl | ⟨before, final, rfl⟩
  · simp at hscan
  · rw [List.concat_eq_append, List.map_append] at hscan
    rw [List.concat_eq_append, List.map_append]
    refine ⟨_, _, rfl, ?_⟩
    have hfinal := List.singleton_inj.1 (List.append_inj_right' hscan rfl)
    rw [← hlast, ← hfinal]
    rfl

/-- A type is read to its semicolon wherever it stands. -/
theorem parsePropertyType_scanFrom (type : TypeText) {context : Context}
    (hnewline : context.newline = false) :
    ∃ stop : Terminal, stop.kind = .semicolon ∧
      parsePropertyType (ofTokens (scanFrom context (annotated type.text).toList)) =
        .ok (some type.text, [stop]) := by
  obtain ⟨stop, hstop, hparse⟩ := type.isTypeText.parsePropertyType_eq
  rw [scan, scanFrom_annotated _ rfl] at hparse
  rw [scanFrom_annotated _ hnewline]
  generalize scanFrom origin (annotated type.text).toList = tokens at hparse ⊢
  -- From the text that stands alone back to the origin, and from there to the place in question.
  have hback := parsePropertyType_agree (L := .movedDown _)
    (forall₂_ofTokens_move Context.start.line Context.start.offset tokens)
  have hforth := parsePropertyType_agree (L := .movedDown _)
    (forall₂_ofTokens_move context.line context.offset tokens)
  rw [hparse] at hback
  generalize parsePropertyType (ofTokens tokens) = atOrigin at hback hforth
  generalize parsePropertyType (ofTokens (tokens.map _)) = inPlace at hforth ⊢
  obtain @⟨⟨type₀, after₀⟩, _, htype₀, hafter₀⟩ | _ := hback
  obtain @⟨_, ⟨type', after'⟩, htype', hafter'⟩ | _ := hforth
  obtain _ | ⟨hstop₀, _ | _⟩ := hafter₀
  obtain _ | ⟨hstop', _ | _⟩ := hafter'
  have htypes : type' = some type.text := by
    simpa [Likeness.movedDown] using htype'.trans htype₀.symm
  refine ⟨_, ?_, by rw [htypes]⟩
  rw [hstop'.kind, ← hstop₀.kind, hstop]

end TypeText

namespace Cursor

/-- A type behind a name is read to its semicolon, with any text on the next lines. -/
theorem parsePropertyType_print (cursor : Cursor) {kind : Kind} (hkind : kind.isComment = false)
    (text : List Char) (type : TypeText) (rest : List Char) :
    ∃ (stop : Terminal) (next : Cursor), stop.kind = .semicolon ∧ next.comments = [] ∧
      next.line = (cursor.pass kind text).line + countNewlines (annotated type.text).toList ∧
      parsePropertyType
          ((cursor.pass kind text).terminals ((annotated type.text).toList ++ '\n' :: rest)) =
        .ok (some type.text, stop :: next.terminals ('\n' :: rest)) := by
  have hnewline := cursor.newline_pass hkind text
  rw [newline, pass, Context.skip_nil] at hnewline
  rw [terminals, pass, attachAll_nil, List.nil_append]
  generalize cursor.context.after cursor.space kind text = context at hnewline ⊢
  obtain ⟨stop, hstop, hparse⟩ := type.parsePropertyType_scanFrom hnewline
  obtain ⟨tokens, last, hconcat, hlast⟩ := type.scanFrom_eq_concat hnewline
  obtain ⟨final, space, hspace, hline, -, hscan⟩ :=
    scanFrom_append_newline (type.ne_error_scanFrom hnewline)
  refine ⟨stop, ⟨final, space, [], hspace⟩, hstop, rfl, hline, ?_⟩
  have hmore := ofTokens_concat_append hlast tokens (scanFrom final (space ++ '\n' :: rest))
  obtain ⟨before, comments, hbefore, hboth⟩ := hmore
  rw [hconcat, hbefore] at hparse
  rw [hscan, hconcat, hboth, terminals, attachAll_nil]
  have happend := parsePropertyType_append hparse (List.cons_ne_nil stop [])
    (ofTokens (scanFrom final (space ++ '\n' :: rest)))
  rw [List.append_assoc] at happend
  exact happend

end Cursor

end ComponentDocs
