import ComponentDocs.Proofs.Token.Extent

/-!
# Scanning in pieces

A text is either blank or starts with blank space and one token.  `scanFrom_token` is the step for
such a token, and `scan_induction` is the induction over a text along its tokens; no other proof
opens the definition of scanning.

* `scanFrom_append_newline`: when a text without error tokens is followed by a line feed and more
  text, its tokens stay as they are.
* `Context.Moved.scanFrom_eq`: what stands before a text moves its tokens and does nothing else, as
  long as it leaves behind the same newline flag and the same readiness for an operand.
-/

namespace ComponentDocs.Token

open Text

namespace Context

/-- The token of this kind and text that follows blank space. -/
def tokenAfter (context : Context) (space : List Char) (kind : Kind) (text : List Char) : Token :=
  (context.skip space).token space kind text

/-- The context after blank space and a token of this kind and text. -/
def after (context : Context) (space : List Char) (kind : Kind) (text : List Char) : Context :=
  (context.skip space).advance (context.tokenAfter space kind text) text

@[simp] theorem tokenAfter_kind (context : Context) (space : List Char) (kind : Kind)
    (text : List Char) : (context.tokenAfter space kind text).kind = kind :=
  rfl

@[simp] theorem tokenAfter_text (context : Context) (space : List Char) (kind : Kind)
    (text : List Char) : (context.tokenAfter space kind text).text = String.ofList text :=
  rfl

@[simp] theorem after_line (context : Context) (space : List Char) (kind : Kind)
    (text : List Char) :
    (context.after space kind text).line =
      context.line + countNewlines space + countNewlines text :=
  rfl

@[simp] theorem after_offset (context : Context) (space : List Char) (kind : Kind)
    (text : List Char) :
    (context.after space kind text).offset =
      context.offset + byteSize space + byteSize text :=
  rfl

@[simp] theorem skip_nil (context : Context) : context.skip [] = context := by
  simp [skip, byteSize, countNewlines]

theorem skip_append (context : Context) (space more : List Char) :
    context.skip (space ++ more) = (context.skip space).skip more := by
  simp only [skip, byteSize_append, countNewlines_append, List.contains_append, Nat.add_assoc,
    Bool.or_assoc]

end Context

/-! ## One token -/

theorem takeWhile_isSpace_append {space : List Char} (hspace : ∀ c ∈ space, isSpace c = true)
    (rest : List Char) : (space ++ rest).takeWhile isSpace = space ++ rest.takeWhile isSpace := by
  rw [List.takeWhile_append_of_pos hspace]

theorem dropWhile_isSpace_append {space : List Char} (hspace : ∀ c ∈ space, isSpace c = true)
    (rest : List Char) : (space ++ rest).dropWhile isSpace = rest.dropWhile isSpace :=
  List.dropWhile_append_of_pos hspace

theorem scanFrom_blank {space : List Char} (hspace : ∀ c ∈ space, isSpace c = true)
    (context : Context) : scanFrom context space = [] := by
  have hnil : space.dropWhile isSpace = [] := by
    simpa using dropWhile_isSpace_append hspace []
  rw [scanFrom.eq_def]
  split
  · rfl
  · rename_i hcons
    rw [hnil] at hcons
    cases hcons

theorem scanFrom_token {context : Context} {space body tail : List Char} {c : Char} {kind : Kind}
    (hspace : ∀ x ∈ space, isSpace x = true) (hc : isSpace c = false)
    (hextent : extent (context.skip space).regexAllowed c (body ++ tail) = (kind, body.length)) :
    scanFrom context (space ++ c :: (body ++ tail)) =
      context.tokenAfter space kind (c :: body) ::
        scanFrom (context.after space kind (c :: body)) tail := by
  have htake : (space ++ c :: (body ++ tail)).takeWhile isSpace = space := by
    rw [takeWhile_isSpace_append hspace, List.takeWhile_cons_of_neg (by simp [hc]),
      List.append_nil]
  have hdrop : (space ++ c :: (body ++ tail)).dropWhile isSpace = c :: (body ++ tail) := by
    rw [dropWhile_isSpace_append hspace, List.dropWhile_cons_of_neg (by simp [hc])]
  rw [scanFrom.eq_def]
  split
  · rename_i hnil
    rw [hdrop] at hnil
    cases hnil
  · rename_i first rest hcons
    rw [hdrop] at hcons
    cases hcons
    simp only [htake, hextent, List.take_left, List.drop_left]
    rfl

/-- Induction over a text along its tokens. -/
theorem scan_induction {motive : Context → List Char → Prop}
    (blank : ∀ context space, (∀ c ∈ space, isSpace c = true) → motive context space)
    (token : ∀ context space c body tail kind, (∀ x ∈ space, isSpace x = true) →
      isSpace c = false →
      extent (context.skip space).regexAllowed c (body ++ tail) = (kind, body.length) →
      motive (context.after space kind (c :: body)) tail →
      motive context (space ++ c :: (body ++ tail)))
    (context : Context) (cs : List Char) : motive context cs := by
  induction hlength : cs.length using Nat.strongRecOn generalizing context cs with
  | ind n ih =>
    have hspace : ∀ c ∈ cs.takeWhile isSpace, isSpace c = true := fun c hc =>
      List.all_eq_true.1 List.all_takeWhile c hc
    have hsplit : cs.takeWhile isSpace ++ cs.dropWhile isSpace = cs := List.takeWhile_append_dropWhile
    generalize cs.takeWhile isSpace = space at hspace hsplit
    cases hrest : cs.dropWhile isSpace with
    | nil =>
      rw [hrest, List.append_nil] at hsplit
      rw [← hsplit]
      exact blank context space hspace
    | cons c rest =>
      have hc : isSpace c = false := by
        have hhead := List.head?_dropWhile_not isSpace cs
        simpa [hrest] using hhead
      rw [hrest] at hsplit
      -- The characters of the token are the first ones of `rest`, as many as its extent says.
      generalize hextent : extent (context.skip space).regexAllowed c rest = found
      have hle : found.2 ≤ rest.length := hextent ▸ extent_le _ c rest
      have hbody : (rest.take found.2).length = found.2 := List.length_take_of_le hle
      rw [← hsplit, ← List.take_append_drop found.2 rest]
      refine token context space c _ _ found.1 hspace hc ?_ (ih _ ?_ _ _ rfl)
      · rw [List.take_append_drop, hextent, hbody]
      · have hlong := congrArg List.length hsplit
        simp only [List.length_append, List.length_cons] at hlong
        rw [List.length_drop]
        omega

/-! ## No character is lost -/

/-- A text is its tokens as they stand in it, and blank space behind the last one. -/
theorem flatMap_spelling_scanFrom (context : Context) (cs : List Char) :
    ∃ space, (∀ c ∈ space, isSpace c = true) ∧
      cs = (scanFrom context cs).flatMap (fun token => token.spelling.toList) ++ space := by
  induction context, cs using scan_induction with
  | blank context space hspace =>
    refine ⟨space, hspace, ?_⟩
    rw [scanFrom_blank hspace, List.flatMap_nil, List.nil_append]
  | token context space c body tail kind hspace hc hextent ih =>
    obtain ⟨last, hlast, htail⟩ := ih
    refine ⟨last, hlast, ?_⟩
    have hspelling : (context.tokenAfter space kind (c :: body)).spelling.toList =
        space ++ c :: body := by
      simp [spelling, Context.tokenAfter, Context.token]
    rw [scanFrom_token hspace hc hextent, List.flatMap_cons, hspelling, List.append_assoc, ← htail,
      List.append_assoc, List.cons_append]

/-- Only blank space stands before a token. -/
theorem isSpace_leading {context : Context} {cs : List Char} {token : Token}
    (htoken : token ∈ scanFrom context cs) : ∀ c ∈ token.leading.toList, isSpace c = true := by
  induction context, cs using scan_induction with
  | blank context space hspace =>
    rw [scanFrom_blank hspace] at htoken
    cases htoken
  | token context space c body tail kind hspace hc hextent ih =>
    rw [scanFrom_token hspace hc hextent] at htoken
    rcases List.mem_cons.1 htoken with rfl | htoken
    · simpa [Context.tokenAfter, Context.token] using hspace
    · exact ih htoken

/-- A semicolon is written in one way. -/
theorem text_semicolon {context : Context} {cs : List Char} {token : Token}
    (htoken : token ∈ scanFrom context cs) (hkind : token.kind = .semicolon) :
    token.text = ";" := by
  induction context, cs using scan_induction with
  | blank context space hspace =>
    rw [scanFrom_blank hspace] at htoken
    cases htoken
  | token context space c body tail kind hspace hc hextent ih =>
    rw [scanFrom_token hspace hc hextent] at htoken
    rcases List.mem_cons.1 htoken with rfl | htoken
    · rw [Context.tokenAfter_kind] at hkind
      obtain ⟨rfl, hbody⟩ := extent_semicolon (hextent.trans (by rw [hkind]))
      rw [List.length_eq_zero_iff.1 hbody]
      rfl
    · exact ih htoken

/-! ## A line feed between two texts -/

theorem isSpace_newline : isSpace '\n' = true := rfl

/-- The tokens of a text without error tokens stay as they are when a line feed and more text
follow.  `final` and `space` are the context after its last token and the blank space at its
end. -/
theorem scanFrom_append_newline {context : Context} {cs : List Char}
    (herror : ∀ token ∈ scanFrom context cs, token.kind ≠ .error) :
    ∃ final space, (∀ c ∈ space, isSpace c = true) ∧
      final.line + countNewlines space = context.line + countNewlines cs ∧
      final.offset + byteSize space = context.offset + byteSize cs ∧
      ∀ tail, scanFrom context (cs ++ '\n' :: tail) =
        scanFrom context cs ++ scanFrom final (space ++ '\n' :: tail) := by
  induction context, cs using scan_induction with
  | blank context space hspace =>
    refine ⟨context, space, hspace, rfl, rfl, fun tail => ?_⟩
    rw [scanFrom_blank hspace, List.nil_append]
  | token context space c body tail kind hspace hc hextent ih =>
    rw [scanFrom_token hspace hc hextent] at herror ⊢
    obtain ⟨final, last, hlast, hline, hoffset, hscan⟩ :=
      ih fun token htoken => herror token (List.mem_cons_of_mem _ htoken)
    refine ⟨final, last, hlast, ?_, ?_, fun more => ?_⟩
    · rw [hline, Context.after_line, ← List.cons_append, countNewlines_append,
        countNewlines_append]
      omega
    · rw [hoffset, Context.after_offset, ← List.cons_append, byteSize_append, byteSize_append]
      omega
    · have hkind : (extent (context.skip space).regexAllowed c (body ++ tail)).1 ≠ .error := by
        rw [hextent]
        exact herror _ List.mem_cons_self
      have hextent' := extent_append_newline hkind more
      rw [hextent, List.append_assoc] at hextent'
      rw [List.append_assoc, List.cons_append, List.append_assoc,
        scanFrom_token hspace hc hextent', hscan, List.cons_append]

/-! ## Moved tokens -/

/-- The token as it stands further down in a text. -/
def move (lines bytes : Nat) (token : Token) : Token :=
  { token with offset := token.offset + bytes, line := token.line + lines }

theorem beginsOperand_congr {token other : Token} (hkind : other.kind = token.kind)
    (htext : other.text = token.text) : other.beginsOperand = token.beginsOperand := by
  simp only [beginsOperand, hkind, htext]

namespace Context

/-- An expression may begin here even on the line of the last token. -/
def operandNext (context : Context) : Bool :=
  match context.previous with
  | none => true
  | some token => token.beginsOperand

theorem regexAllowed_eq (context : Context) :
    context.regexAllowed = (context.newline || context.operandNext) := by
  unfold regexAllowed operandNext
  cases context.previous <;> simp

@[simp] theorem operandNext_skip (context : Context) (space : List Char) :
    (context.skip space).operandNext = context.operandNext :=
  rfl

/-- After a comment the last token that counts is the same as before it. -/
theorem operandNext_after_comment {kind : Kind} (hkind : kind.isComment = true)
    (context : Context) (space text : List Char) :
    (context.after space kind text).operandNext = context.operandNext := by
  unfold operandNext after advance
  rw [tokenAfter_kind, if_pos hkind]
  rfl

theorem operandNext_after {kind : Kind} (hkind : kind.isComment = false) (context : Context)
    (space text : List Char) :
    (context.after space kind text).operandNext =
      (context.tokenAfter space kind text).beginsOperand := by
  unfold operandNext after advance
  rw [tokenAfter_kind, hkind]
  rfl

theorem newline_after {kind : Kind} (context : Context) (space text : List Char) :
    (context.after space kind text).newline =
      (kind.isComment && ((context.skip space).newline || text.contains '\n')) :=
  rfl

/-- The same point of a text further down. -/
structure Moved (lines bytes : Nat) (context moved : Context) : Prop where
  offset : moved.offset = context.offset + bytes
  line : moved.line = context.line + lines
  newline : moved.newline = context.newline
  operandNext : moved.operandNext = context.operandNext

variable {lines bytes : Nat} {context moved : Context}

theorem Moved.skip (h : Moved lines bytes context moved) (space : List Char) :
    Moved lines bytes (context.skip space) (moved.skip space) := by
  refine ⟨?_, ?_, ?_, h.operandNext⟩
  · simp only [Context.skip, h.offset]
    omega
  · simp only [Context.skip, h.line]
    omega
  · simp only [Context.skip, h.newline]

theorem Moved.tokenAfter (h : Moved lines bytes context moved) (space : List Char) (kind : Kind)
    (text : List Char) :
    moved.tokenAfter space kind text = (context.tokenAfter space kind text).move lines bytes := by
  have hskip := h.skip space
  simp only [Context.tokenAfter, Context.token, move, hskip.offset, hskip.line, hskip.newline]

theorem Moved.after (h : Moved lines bytes context moved) (space : List Char) (kind : Kind)
    (text : List Char) :
    Moved lines bytes (context.after space kind text) (moved.after space kind text) := by
  have hskip := h.skip space
  refine ⟨?_, ?_, ?_, ?_⟩
  · rw [after_offset, after_offset, h.offset]
    omega
  · rw [after_line, after_line, h.line]
    omega
  · rw [newline_after, newline_after, hskip.newline]
  · cases hkind : kind.isComment with
    | true => rw [operandNext_after_comment hkind, operandNext_after_comment hkind, h.operandNext]
    | false =>
      rw [operandNext_after hkind, operandNext_after hkind]
      exact beginsOperand_congr rfl rfl

theorem Moved.scanFrom_eq (h : Moved lines bytes context moved) (cs : List Char) :
    scanFrom moved cs = (scanFrom context cs).map (move lines bytes) := by
  induction context, cs using scan_induction generalizing moved with
  | blank context space hspace => rw [scanFrom_blank hspace, scanFrom_blank hspace, List.map_nil]
  | token context space c body tail kind hspace hc hextent ih =>
    have hallowed : (moved.skip space).regexAllowed = (context.skip space).regexAllowed := by
      rw [regexAllowed_eq, regexAllowed_eq, (h.skip space).newline, (h.skip space).operandNext]
    rw [scanFrom_token hspace hc hextent, scanFrom_token hspace hc (hallowed ▸ hextent),
      ih (h.after space kind (c :: body)), h.tokenAfter, List.map_cons]

end Context

end ComponentDocs.Token
