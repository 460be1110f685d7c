import ComponentDocs.Proofs.Declaration.Cursor
import ComponentDocs.Proofs.Declaration.Edge
import ComponentDocs.Proofs.Declaration.Moved
import ComponentDocs.Proofs.Token.Cut

/-!
# Text cut out of a file

The text between two terminals of a file, put at any point of another text, has the terminals that
it had in the file (`exists_movable`).  What stood before it in the file only decided about its
first terminal and the space before that one; what stood behind it decided nothing, as long as its
last terminal is solid.
-/

namespace ComponentDocs

open Text Token Literal Terminal

/-! ## Tokens of a text -/

theorem Terminal.forall₂_relocated {lines lines' : Nat} {ts us vs : List Terminal}
    (h : List.Forall₂ (MovedDown lines) ts us) (h' : List.Forall₂ (MovedDown lines') ts vs) :
    List.Forall₂ Relocated us vs := by
  induction h generalizing vs with
  | nil =>
    cases h'
    exact .nil
  | cons hu hrest ih =>
    obtain _ | ⟨hv, hrest'⟩ := h'
    refine .cons ⟨?_, ?_, ?_, ?_⟩ (ih hrest')
    · rw [hv.kind, hu.kind]
    · rw [hv.text, hu.text]
    · rw [hv.newlineBefore, hu.newlineBefore]
    · rw [hv.leading, hu.leading]

namespace Token

theorem endsSolid_of_mem {context : Context} {cs : List Char} {token : Token}
    (htoken : token ∈ scanFrom context cs) (hsolid : token.kind.isSolid = true) :
    EndsSolid token.text.toList := by
  induction context, cs using scan_induction with
  | blank context space hspace =>
    rw [scanFrom_blank hspace] at htoken
    cases htoken
  | token context space c body tail kind hspace hc hextent ih =>
    rw [scanFrom_token hspace hc hextent] at htoken
    rcases List.mem_cons.1 htoken with rfl | htoken
    · rw [Context.tokenAfter_text, String.toList_ofList]
      exact endsSolid_of_extent hextent hsolid
    · exact ih htoken

/-- The same text at another point has the same tokens in other places, if the two points agree in
what scanning looks at. -/
theorem exists_scanFrom_relocated {context other : Context} {cs : List Char}
    {tokens post : List Token} {last : Token} (hnewline : other.newline = context.newline)
    (hoperand : other.operandNext = context.operandNext)
    (h : scanFrom context cs = tokens ++ last :: post) :
    ∃ tokens' last' post', scanFrom other cs = tokens' ++ last' :: post' ∧
      last'.kind = last.kind ∧ last'.text = last.text ∧
      spellings (tokens' ++ [last']) = spellings (tokens ++ [last]) ∧
      List.Forall₂ Relocated (ofTokens (tokens ++ [last])) (ofTokens (tokens' ++ [last'])) := by
  -- Both are moved from the point at the beginning with the same state.
  let origin : Context := ⟨0, 0, context.newline, context.previous⟩
  have hcontext : Context.Moved context.line context.offset origin context :=
    ⟨(Nat.zero_add _).symm, (Nat.zero_add _).symm, rfl, rfl⟩
  have hother : Context.Moved other.line other.offset origin other :=
    ⟨(Nat.zero_add _).symm, (Nat.zero_add _).symm, hnewline, hoperand⟩
  rw [hcontext.scanFrom_eq] at h
  obtain ⟨before, behind, horigin, rfl, hbehind⟩ := List.map_eq_append_iff.1 h
  obtain ⟨final, others, rfl, rfl, rfl⟩ := List.map_eq_cons_iff.1 hbehind
  refine ⟨before.map (move other.line other.offset), final.move other.line other.offset,
    others.map (move other.line other.offset), ?_, rfl, rfl, ?_, ?_⟩
  · rw [hother.scanFrom_eq, horigin, List.map_append, List.map_cons]
  · simp [spellings, List.flatMap_map, move, spelling]
  · have hfrom := forall₂_ofTokens_move context.line context.offset (before ++ [final])
    have hto := forall₂_ofTokens_move other.line other.offset (before ++ [final])
    simp only [List.map_append, List.map_cons, List.map_nil] at hfrom hto
    exact forall₂_relocated hfrom hto

end Token

/-! ## Terminals of a text -/

namespace Terminal

/-- A terminal of a token list and what follows it there. -/
theorem exists_tokens_of_suffix {tokens : List Token} {t : Terminal} {after : List Terminal}
    (h : t :: after <:+ ofTokens tokens) :
    ∃ before post, tokens = before ++ t.token :: post ∧ t.kind.isComment = false ∧
      after = ofTokens post := by
  induction tokens generalizing t with
  | nil => simp [ofTokens] at h
  | cons token tokens ih =>
    rw [ofTokens] at h
    split at h
    · -- A comment changes the first terminal, but not its token.
      have hrest : ∃ u : Terminal, u.token = t.token ∧ u :: after <:+ ofTokens tokens := by
        generalize ofTokens tokens = ts at h
        cases ts with
        | nil => simp [attach] at h
        | cons u rest =>
          rcases List.suffix_cons_iff.1 h with heq | hsuffix
          · obtain ⟨rfl, rfl⟩ := List.cons.inj heq
            exact ⟨u, rfl, List.suffix_rfl⟩
          · exact ⟨t, rfl, hsuffix.trans (List.suffix_cons u rest)⟩
      obtain ⟨u, htoken, hsuffix⟩ := hrest
      obtain ⟨before, post, rfl, hkind, hafter⟩ := ih hsuffix
      refine ⟨token :: before, post, ?_, ?_, hafter⟩
      · rw [htoken, List.cons_append]
      · rw [kind, ← htoken]
        exact hkind
    · rename_i hcomment
      rcases List.suffix_cons_iff.1 h with heq | hsuffix
      · obtain ⟨rfl, rfl⟩ := List.cons.inj heq
        exact ⟨[], tokens, rfl, Bool.eq_false_iff.2 hcomment, rfl⟩
      · obtain ⟨before, post, rfl, hkind, hafter⟩ := ih hsuffix
        exact ⟨token :: before, post, rfl, hkind, hafter⟩

end Terminal

/-- Scanning reaches each of its tokens at some point. -/
theorem Token.exists_scanFrom_of_append {context : Context} {cs : List Char}
    {before post : List Token} {token : Token}
    (h : scanFrom context cs = before ++ token :: post) :
    ∃ (reached : Context) (space : List Char) (c : Char) (body rest : List Char) (kind : Kind),
      isSpace c = false ∧
      extent (reached.skip space).regexAllowed c (body ++ rest) = (kind, body.length) ∧
      token = reached.tokenAfter space kind (c :: body) ∧
      post = scanFrom (reached.after space kind (c :: body)) rest := by
  induction context, cs using scan_induction generalizing before with
  | blank context space hspace =>
    rw [scanFrom_blank hspace] at h
    simp at h
  | token context space c body rest kind hspace hc hextent ih =>
    rw [scanFrom_token hspace hc hextent] at h
    cases before with
    | nil =>
      obtain ⟨rfl, rfl⟩ := List.cons.inj h
      exact ⟨context, space, c, body, rest, kind, hc, hextent, rfl, rfl⟩
    | cons first before => exact ih (List.cons.inj h).2

/-! ## The same terminals at another point -/

/-- The text of the terminals has no blank ends, and at every point of another text it has these
terminals again: the first one with the space and the comments there, the others as they were. -/
structure Movable (first : Terminal) (taken : List Terminal) : Prop where
  trim_spelling : trim (spelling (first :: taken)) = spelling (first :: taken)
  terminals_eq : ∀ (cursor : Cursor) {tail : List Char}, EndsToken tail →
    ∃ (taken' : List Terminal) (next : Cursor), List.Forall₂ Relocated taken taken' ∧
      cursor.terminals (spelling (first :: taken) ++ tail) =
        cursor.terminal first.kind first.text.toList :: (taken' ++ next.terminals tail)

section

variable {reached : Context} {space body rest : List Char} {c : Char} {kind : Kind}
  {first : Terminal}

/-- Terminals can be moved if those behind the first one can. -/
theorem Movable.of_pass {run old : List Char} {taken : List Terminal} (hc : isSpace c = false)
    (hextent : extent (reached.skip space).regexAllowed c (body ++ (run ++ old)) =
      (kind, body.length))
    (hfirst : first.token = reached.tokenAfter space kind (c :: body))
    (hcomment : kind.isComment = false) (hslashed : kind.isSlashed = false)
    (hrun : taken.flatMap (fun t => t.leading ++ t.text.toList) = run)
    (hclosed : ClosedIn (body ++ run) kind body.length) (hsolid : EndsSolid (c :: (body ++ run)))
    (hpass : ∀ (cursor : Cursor) {tail : List Char}, EndsToken tail →
      ∃ (taken' : List Terminal) (next : Cursor), List.Forall₂ Relocated taken taken' ∧
        (cursor.pass kind (c :: body)).terminals (run ++ tail) = taken' ++ next.terminals tail) :
    Movable first taken := by
  have hkind : first.kind = kind := by
    rw [Terminal.kind, hfirst]
    rfl
  have htext : first.text.toList = c :: body := by
    rw [Terminal.text, hfirst, Context.tokenAfter_text, String.toList_ofList]
  have hspelling : spelling (first :: taken) = c :: (body ++ run) := by
    rw [Terminal.spelling, hrun, htext, List.cons_append]
  rw [← List.append_assoc] at hextent
  refine ⟨?_, fun cursor tail htail => ?_⟩
  · have herror : kind ≠ .error := by
      rintro rfl
      cases hslashed
    obtain ⟨last, hlast, hblank, -⟩ := hsolid
    rw [hspelling]
    refine trim_eq_self_of_ends ?_ ?_
    · rintro d ⟨⟩
      exact extent_first hextent herror
    · intro d hd
      rw [hlast] at hd
      cases hd
      exact hblank
  · have hcut := extent_cut hextent (by simp) hclosed htail
    rw [List.append_assoc] at hcut
    obtain ⟨taken', next, hrelocated, hterminals⟩ := hpass cursor htail
    refine ⟨taken', next, hrelocated, ?_⟩
    rw [hspelling, htext, hkind, List.cons_append, List.append_assoc,
      cursor.terminals_token hcomment hc (extent_of_not_isSlashed hcut hslashed), hterminals]

/-- A terminal that is solid itself can be moved alone. -/
theorem Movable.single (hc : isSpace c = false)
    (hextent : extent (reached.skip space).regexAllowed c (body ++ rest) = (kind, body.length))
    (hfirst : first.token = reached.tokenAfter space kind (c :: body))
    (hcomment : kind.isComment = false) (hslashed : kind.isSlashed = false)
    (hsolid : kind.isSolid = true) : Movable first [] := by
  have herror : kind ≠ .error := by
    rintro rfl
    cases hsolid
  have hextent' : extent (reached.skip space).regexAllowed c (body ++ ([] ++ rest)) =
      (kind, body.length) := hextent
  refine .of_pass hc hextent' hfirst hcomment hslashed rfl (.inl ⟨herror, hcomment⟩) ?_
    fun cursor tail _ => ⟨[], cursor.pass kind (c :: body), .nil, rfl⟩
  rw [List.append_nil]
  exact endsSolid_of_extent hextent hsolid

/-- Terminals in a row can be moved if the last one is solid. -/
theorem Movable.run {tokens post : List Token} {last : Token} (hc : isSpace c = false)
    (hextent : extent (reached.skip space).regexAllowed c (body ++ rest) = (kind, body.length))
    (hfirst : first.token = reached.tokenAfter space kind (c :: body))
    (hcomment : kind.isComment = false) (hslashed : kind.isSlashed = false)
    (hscan : scanFrom (reached.after space kind (c :: body)) rest = tokens ++ last :: post)
    (hlastComment : last.kind.isComment = false) (hsolid : last.kind.isSolid = true) :
    Movable first (ofTokens (tokens ++ [last])) := by
  have herror : last.kind ≠ .error := by
    intro hkind
    rw [hkind] at hsolid
    cases hsolid
  have hmem : last ∈ scanFrom (reached.after space kind (c :: body)) rest := by
    rw [hscan]
    simp
  obtain ⟨d, hlast, hblank, hbackslash⟩ := endsSolid_of_mem hmem hsolid
  obtain ⟨old, -, rfl, -⟩ := scanFrom_cut hscan herror hlastComment hlast hbackslash
  have hbehind := @getLast?_spellings tokens last d hlast
  refine .of_pass hc hextent hfirst hcomment hslashed (flatMap_ofTokens hlastComment tokens)
    (.of_getLast? hbehind hbackslash kind) ?_ fun cursor tail htail => ?_
  · refine ⟨d, ?_, hblank, hbackslash⟩
    rw [← List.cons_append, List.getLast?_append, hbehind]
    rfl
  · -- Behind the first terminal scanning is in the same state as in the file.
    have hnewline : (cursor.context.after cursor.space kind (c :: body)).newline =
        (reached.after space kind (c :: body)).newline := by
      rw [Context.newline_after, Context.newline_after, hcomment]
      rfl
    have hoperand : (cursor.context.after cursor.space kind (c :: body)).operandNext =
        (reached.after space kind (c :: body)).operandNext := by
      rw [Context.operandNext_after hcomment, Context.operandNext_after hcomment]
      exact beginsOperand_congr rfl rfl
    obtain ⟨tokens', last', post', hscan', hkind', htext', hspellings, hrelocated⟩ :=
      exists_scanFrom_relocated hnewline hoperand hscan
    rw [← hkind'] at herror hlastComment
    rw [← htext'] at hlast
    obtain ⟨-, final, -, hcut⟩ := scanFrom_cut hscan' herror hlastComment hlast hbackslash
    obtain ⟨before, comments, hbefore, hboth⟩ :=
      ofTokens_concat_append hlastComment tokens' (scanFrom final tail)
    refine ⟨ofTokens (tokens' ++ [last']), ⟨final, [], [], List.forall_mem_nil _⟩, hrelocated, ?_⟩
    have hrun : scanFrom (cursor.context.after cursor.space kind (c :: body))
        (spellings (tokens ++ [last]) ++ tail) = tokens' ++ [last'] ++ scanFrom final tail := by
      rw [← hspellings, hcut tail htail, List.append_assoc, List.singleton_append]
    rw [Cursor.terminals, Cursor.terminals, Cursor.pass, Cursor.attachAll_nil, Cursor.attachAll_nil,
      List.nil_append, List.nil_append]
    refine (congrArg ofTokens hrun).trans ?_
    rw [hboth, hbefore, List.append_assoc, List.singleton_append]

end

/-- What stands before a solid terminal of a file can be moved. -/
theorem exists_movable {text : String} {first : Terminal} {rest after : List Terminal}
    (h : first :: rest <:+ ofTokens (scan text)) (hslashed : first.kind.isSlashed = false)
    (hsolid : Declaration.SolidBefore after (first :: rest)) :
    ∃ taken, rest = taken ++ after ∧ Movable first taken := by
  obtain ⟨before, post, hscan, hcomment, rfl⟩ := exists_tokens_of_suffix h
  obtain ⟨reached, space, c, body, behind, kind, hc, hextent, hfirst, rfl⟩ :=
    exists_scanFrom_of_append hscan
  have hkind : first.kind = kind := by
    rw [Terminal.kind, hfirst]
    rfl
  rw [hkind] at hcomment hslashed
  obtain ⟨last, hlast, hsuffix⟩ := hsolid
  rcases List.suffix_cons_iff.1 hsuffix with heq | hsuffix
  · obtain ⟨rfl, rfl⟩ := List.cons.inj heq
    rw [hkind] at hlast
    exact ⟨[], rfl, .single hc hextent hfirst hcomment hslashed hlast⟩
  · obtain ⟨tokens, post, hrun, hlastComment, rfl⟩ := exists_tokens_of_suffix hsuffix
    obtain ⟨before, comments, hbefore, hboth⟩ := ofTokens_concat_append hlastComment tokens post
    refine ⟨ofTokens (tokens ++ [last.token]), ?_,
      .run hc hextent hfirst hcomment hslashed hrun hlastComment hlast⟩
    rw [hrun, hbefore, List.append_assoc, List.singleton_append, ← hboth, List.append_assoc,
      List.singleton_append]

end ComponentDocs
