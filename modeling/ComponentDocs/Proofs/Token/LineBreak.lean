import ComponentDocs.Proofs.Token.Layout

/-!
# Line feeds before tokens

A token knows whether a line feed stands before it.  What counts is the text since the last token
that is not a comment: blank space and comments, of one line or of several.
`newlineBefore_iff` says so in terms of the bytes of the text.

While a text is scanned, the characters since the end of that last token are its loose end.  The
context holds whether there is a line feed in it (`Context.Loose`), and a token takes this over.
-/

namespace ComponentDocs.Token

open Text

/-! ## The loose end of the text so far -/

namespace Context

/-- The text behind the last token that is not a comment is `gap`, from byte `start` on. -/
structure Loose (start : Nat) (gap : List Char) (context : Context) : Prop where
  offset : context.offset = start + byteSize gap
  newline : context.newline = gap.contains '\n'

variable {start : Nat} {gap : List Char} {context : Context}

theorem loose_start : Loose 0 [] Context.start :=
  ⟨rfl, rfl⟩

theorem Loose.skip (h : Loose start gap context) (space : List Char) :
    Loose start (gap ++ space) (context.skip space) := by
  refine ⟨?_, ?_⟩
  · rw [Context.skip, h.offset, byteSize_append, Nat.add_assoc]
  · rw [Context.skip, h.newline, List.contains_append]

/-- A comment is part of the loose end. -/
theorem Loose.after_comment (h : Loose start gap context) (space : List Char) {kind : Kind}
    (hkind : kind.isComment = true) (text : List Char) :
    Loose start (gap ++ space ++ text) (context.after space kind text) := by
  have hskip := h.skip space
  refine ⟨?_, ?_⟩
  · rw [byteSize_append, ← Nat.add_assoc, ← hskip.offset]
    rfl
  · rw [newline_after, hkind, Bool.true_and, hskip.newline, ← List.contains_append]

/-- Behind any other token there is no loose end. -/
theorem loose_after {kind : Kind} (hkind : kind.isComment = false) (context : Context)
    (space text : List Char) :
    Loose (context.after space kind text).offset [] (context.after space kind text) := by
  refine ⟨rfl, ?_⟩
  rw [newline_after, hkind]
  rfl

end Context

/-! ## The loose end before a token -/

/-- Where the last token that is not a comment ends, and `start` when there is none. -/
def codeStop (start : Nat) (tokens : List Token) : Nat :=
  (tokens.filter fun token => !token.kind.isComment).getLast?.elim start stop

theorem codeStop_cons (start : Nat) (token : Token) (tokens : List Token) :
    codeStop start (token :: tokens) =
      codeStop (if token.kind.isComment then start else token.stop) tokens := by
  unfold codeStop
  cases hcomment : token.kind.isComment with
  | true => rw [List.filter_cons_of_neg (by simp [hcomment]), if_pos rfl]
  | false =>
    rw [List.filter_cons_of_pos (by simp [hcomment]), List.getLast?_cons, if_neg Bool.false_ne_true]
    cases (tokens.filter fun token => !token.kind.isComment).getLast? <;> rfl

/-- Between the end of the last token that is not a comment and the token lies `loose`, and the
flag of the token is about it. -/
theorem exists_loose {context : Context} {cs : List Char} {before after : List Token}
    {token : Token} (h : scanFrom context cs = before ++ token :: after) {start : Nat}
    {gap : List Char} (hgap : context.Loose start gap) :
    ∃ solid loose rest, gap ++ cs = solid ++ (loose ++ rest) ∧
      codeStop start before = start + byteSize solid ∧
      token.offset = codeStop start before + byteSize loose ∧
      token.newlineBefore = loose.contains '\n' := by
  induction context, cs using scan_induction generalizing before start gap with
  | blank context space hspace =>
    rw [scanFrom_blank hspace] at h
    simp at h
  | token context space c body tail kind hspace hc hextent ih =>
    rw [scanFrom_token hspace hc hextent] at h
    cases before with
    | nil =>
      obtain ⟨rfl, -⟩ := List.cons.inj h
      have hskip := hgap.skip space
      exact ⟨[], gap ++ space, c :: (body ++ tail), by simp, rfl, hskip.offset, hskip.newline⟩
    | cons first before =>
      obtain ⟨rfl, hrest⟩ := List.cons.inj h
      rw [codeStop_cons, Context.tokenAfter_kind]
      cases hkind : kind.isComment with
      | true =>
        obtain ⟨solid, loose, rest, hsplit, hplace⟩ :=
          ih hrest (hgap.after_comment space hkind (c :: body))
        exact ⟨solid, loose, rest, by rw [← hsplit]; simp, hplace⟩
      | false =>
        obtain ⟨solid, loose, rest, hsplit, hstop, hplace⟩ :=
          ih hrest (Context.loose_after hkind context space (c :: body))
        have hend : (context.tokenAfter space kind (c :: body)).stop =
            (context.after space kind (c :: body)).offset := by
          rw [stop, Context.tokenAfter_text, String.toList_ofList]
          rfl
        refine ⟨gap ++ (space ++ (c :: body ++ solid)), loose, rest, ?_, ?_, ?_⟩
        · rw [List.nil_append] at hsplit
          rw [hsplit]
          simp
        · rw [if_neg Bool.false_ne_true, hend, hstop, Context.after_offset, hgap.offset,
            byteSize_append, byteSize_append, byteSize_append]
          omega
        · rw [if_neg Bool.false_ne_true, hend]
          exact hplace

/-- The line feed flag of a token is exact.  It is set if and only if a line feed stands between the
end of the last token before it that is not a comment, or else the start of the text, and the token,
inside or outside of comments. -/
theorem newlineBefore_iff {source : String} {before after : List Token} {token : Token}
    (h : scan source = before ++ token :: after) :
    token.newlineBefore = true ↔
      ∃ head tail, source.toList = head ++ '\n' :: tail ∧
        codeStop 0 before ≤ byteSize head ∧ byteSize head < token.offset := by
  obtain ⟨solid, loose, rest, hsplit, hstop, hoffset, hflag⟩ :=
    exists_loose h Context.loose_start
  rw [List.nil_append] at hsplit
  rw [Nat.zero_add] at hstop
  rw [hflag, List.contains_iff_mem, hsplit, hoffset, hstop]
  constructor
  · intro hmem
    obtain ⟨first, last, rfl⟩ := List.append_of_mem hmem
    refine ⟨solid ++ first, last ++ rest, by simp, ?_, ?_⟩
    · rw [byteSize_append]
      omega
    · have hpos := Char.utf8Size_pos '\n'
      rw [byteSize_append, byteSize_append, byteSize]
      omega
  · rintro ⟨head, tail, hline, hle, hlt⟩
    -- The line feed is not in `solid`, nor behind the loose end.
    rcases append_eq_append_cons hline with ⟨more, hsolid, -⟩ | ⟨more, rfl, hbehind⟩
    · have hpos := Char.utf8Size_pos '\n'
      rw [hsolid, byteSize_append, byteSize] at hle
      omega
    · rcases append_eq_append_cons hbehind with ⟨others, hloose, -⟩ | ⟨others, rfl, -⟩
      · rw [hloose]
        simp
      · rw [byteSize_append, byteSize_append] at hlt
        omega

-- A block comment of two lines behind a comment of one, and a template with a line feed in it.
theorem newlineBefore_iff_comment :
    ((scan "a /* b */ /* c\n */ d `\n` e").map fun token => (token.text, token.newlineBefore)) =
        [("a", false), ("/* b */", false), ("/* c\n */", false), ("d", true), ("`\n`", false),
          ("e", false)] ∧
      ∃ head tail, "a /* b */ /* c\n */ d `\n` e".toList = head ++ '\n' :: tail ∧
        1 ≤ byteSize head ∧ byteSize head < 19 := by
  have hscan : scan "a /* b */ /* c\n */ d `\n` e" =
      [⟨.word, "a", "", 0, 1, false⟩, ⟨.blockComment, "/* b */", " ", 2, 1, false⟩,
        ⟨.blockComment, "/* c\n */", " ", 10, 1, false⟩] ++
      ⟨.word, "d", " ", 19, 2, true⟩ ::
        [⟨.template, "`\n`", " ", 21, 2, false⟩, ⟨.word, "e", " ", 25, 3, false⟩] := by
    decide +kernel
  exact ⟨by rw [hscan]; rfl, (newlineBefore_iff hscan).1 rfl⟩

end ComponentDocs.Token
