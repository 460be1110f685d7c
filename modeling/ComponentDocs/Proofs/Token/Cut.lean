import ComponentDocs.Proofs.Token.Literal
import ComponentDocs.Proofs.Token.Scan

/-!
# Tokens cut out of their text

A run of tokens can be cut out of its text and put before another one.

* `extent_append_of_le`: what stands behind a token and is not part of it can be left out.
* `extent_append_stop`: a text that begins with a line feed or a semicolon and has no slash can be
  put behind a token, unless the token is open at the end.
* `scanFrom_cut`: a run of tokens stays the same when such a text is put behind it.
-/

namespace ComponentDocs.Token

open Text Literal

variable {cs old tail : List Char}

/-! ## Leaving out what stands behind -/

theorem quotedExtent_append_of_le {quote : Char} {multiline : Bool} {kind : Kind}
    (h : (quotedExtent quote multiline kind (cs ++ old)).2 ≤ cs.length) :
    quotedExtent quote multiline kind (cs ++ old) = quotedExtent quote multiline kind cs := by
  have hcut : quotedLength quote multiline (cs ++ old) = quotedLength quote multiline cs :=
    quotedLength_append_of_le h
  rw [quotedExtent, hcut]
  rfl

/-- A regular expression where one is allowed, or a slash that stands for itself. -/
def regexExtent (regexAllowed : Bool) (rest : List Char) : Kind × Nat :=
  match (if regexAllowed then regexLength? rest else none) with
  | some n => (.regex, n)
  | none => (.slash, 0)

theorem slashExtent_nil (regexAllowed : Bool) : slashExtent regexAllowed [] = (.slash, 0) := by
  cases regexAllowed <;> rfl

theorem slashExtent_cons (regexAllowed : Bool) (c : Char) (rest : List Char) :
    slashExtent regexAllowed (c :: rest) =
      if c = '/' then (.lineComment, 1 + lineCommentLength rest)
      else if c = '*' then
        match blockCommentLength? rest with
        | some n => (.blockComment, 1 + n)
        | none => (.error, 1)
      else regexExtent regexAllowed (c :: rest) := by
  by_cases hline : c = '/'
  · subst hline
    rfl
  rw [if_neg hline]
  by_cases hblock : c = '*'
  · subst hblock
    rfl
  rw [if_neg hblock, slashExtent.eq_def]
  split
  · rename_i hcons
    exact absurd (List.cons.inj hcons).1 hline
  · rename_i hcons
    exact absurd (List.cons.inj hcons).1 hblock
  · rfl

theorem regexExtent_append_of_le {regexAllowed : Bool}
    (h : (regexExtent regexAllowed (cs ++ old)).2 ≤ cs.length) :
    regexExtent regexAllowed (cs ++ old) = regexExtent regexAllowed cs := by
  cases regexAllowed with
  | false => rfl
  | true =>
    have hcut : regexLength? (cs ++ old) = regexLength? cs := by
      refine regexLength?_append_of_le ?_
      intro n hn
      simpa only [regexExtent, if_true, hn] using h
    simp only [regexExtent, hcut]

/-- A slash with no other character is no comment and no regular expression. -/
theorem slashExtent_of_eq_zero {regexAllowed : Bool} (h : (slashExtent regexAllowed cs).2 = 0) :
    slashExtent regexAllowed cs = (.slash, 0) := by
  cases cs with
  | nil => exact slashExtent_nil regexAllowed
  | cons c rest =>
    rw [slashExtent_cons] at h ⊢
    split at h
    · simp at h
    · rename_i hline
      rw [if_neg hline]
      split at h
      · split at h <;> simp at h
      · rename_i hblock
        rw [if_neg hblock]
        exact (@regexExtent_append_of_le [] (c :: rest) regexAllowed (Nat.le_of_eq h)).trans
          (by cases regexAllowed <;> rfl)

theorem slashExtent_append_of_le {regexAllowed : Bool}
    (h : (slashExtent regexAllowed (cs ++ old)).2 ≤ cs.length) :
    slashExtent regexAllowed (cs ++ old) = slashExtent regexAllowed cs := by
  cases cs with
  | nil =>
    rw [slashExtent_nil]
    exact slashExtent_of_eq_zero (Nat.eq_zero_of_le_zero h)
  | cons c rest =>
    rw [List.cons_append, slashExtent_cons] at h
    rw [List.cons_append, slashExtent_cons, slashExtent_cons]
    split
    · rename_i hline
      rw [if_pos hline] at h
      have hle : ((rest ++ old).takeWhile (· != '\n')).length ≤ rest.length := by
        simp only [lineCommentLength, List.length_cons] at h
        omega
      rw [lineCommentLength, takeWhile_append_of_le hle]
      rfl
    · rename_i hline
      rw [if_neg hline] at h
      split
      · rename_i hblock
        rw [if_pos hblock] at h
        cases hclose : blockCommentLength? (rest ++ old) with
        | none =>
          cases hrest : blockCommentLength? rest with
          | none => rfl
          | some n =>
            rw [blockCommentLength?_append hrest] at hclose
            cases hclose
        | some n =>
          simp only [hclose, List.length_cons] at h
          rw [blockCommentLength?_append_of_le hclose (by omega)]
      · rename_i hblock
        rw [if_neg hblock] at h
        rw [← List.cons_append] at h ⊢
        exact regexExtent_append_of_le h

theorem markExtent_append_of_le {mark : List Char} {marked plain : Kind}
    (h : (markExtent mark marked plain (cs ++ old)).2 ≤ cs.length) :
    markExtent mark marked plain (cs ++ old) = markExtent mark marked plain cs := by
  unfold markExtent at h ⊢
  have hiff : mark.isPrefixOf (cs ++ old) = mark.isPrefixOf cs := by
    rw [Bool.eq_iff_iff, List.isPrefixOf_iff_prefix, List.isPrefixOf_iff_prefix]
    constructor
    · intro hmark
      rw [if_pos (List.isPrefixOf_iff_prefix.2 hmark)] at h
      exact List.prefix_of_prefix_length_le hmark (List.prefix_append cs old) h
    · intro hmark
      exact hmark.trans (List.prefix_append cs old)
  rw [hiff]

/-- What stands behind a token and is not part of it can be left out. -/
theorem extent_append_of_le {regexAllowed : Bool} {c : Char}
    (h : (extent regexAllowed c (cs ++ old)).2 ≤ cs.length) :
    extent regexAllowed c (cs ++ old) = extent regexAllowed c cs := by
  have hreads := reads_extent regexAllowed c
  generalize extent regexAllowed c = read at hreads h ⊢
  cases hreads with
  | word hc =>
    have hcut : wordLength (cs ++ old) = wordLength cs :=
      congrArg List.length (takeWhile_append_of_le h)
    dsimp only
    rw [hcut]
  | number hc =>
    dsimp only
    rw [numberLength_append_of_le h]
  | quoted hquote => exact quotedExtent_append_of_le h
  | slash => exact slashExtent_append_of_le h
  | mark hmark => exact markExtent_append_of_le h
  | symbol => rfl

/-! ## Putting other text behind -/

/-- A token of this kind and length is closed at the end of `cs`, or it ends before. -/
def ClosedIn (cs : List Char) (kind : Kind) (n : Nat) : Prop :=
  kind ≠ .error ∧ kind.isComment = false ∨ n < cs.length ∧ cs.getLast? ≠ some '\\'

/-- A token is closed if a solid character ends the text behind it. -/
theorem ClosedIn.of_getLast? {body run : List Char} {c : Char} (hrun : run.getLast? = some c)
    (hc : c ≠ '\\') (kind : Kind) : ClosedIn (body ++ run) kind body.length := by
  refine .inr ⟨?_, ?_⟩
  · have hne : run ≠ [] := by
      rintro rfl
      cases hrun
    have hpos := List.length_pos_iff.2 hne
    rw [List.length_append]
    omega
  · rw [List.getLast?_append, hrun]
    simpa using hc

theorem quotedExtent_append_stop {quote : Char} {multiline : Bool} {kind : Kind}
    (h : ClosedIn cs (quotedExtent quote multiline kind cs).1
      (quotedExtent quote multiline kind cs).2) (tail : List Char) :
    quotedExtent quote multiline kind (cs ++ tail) = quotedExtent quote multiline kind cs := by
  rcases h with ⟨herror, -⟩ | ⟨hlt, hlast⟩
  · exact quotedExtent_append herror tail
  · have hquoted := quotedLength_append_of_lt hlt hlast tail
    rw [quotedExtent, hquoted]
    rfl

theorem slashExtent_append_stop {regexAllowed : Bool} (htail : EndsToken tail)
    (h : ClosedIn cs (slashExtent regexAllowed cs).1 (slashExtent regexAllowed cs).2) :
    slashExtent regexAllowed (cs ++ tail) = slashExtent regexAllowed cs := by
  have hregex : ∀ cs, regexExtent regexAllowed (cs ++ tail) = regexExtent regexAllowed cs := by
    intro cs
    simp only [regexExtent, regexLength?_append_stop htail]
  cases cs with
  | nil =>
    obtain ⟨stop, rest, hstop, rfl⟩ := htail.isStop
    have hline : stop ≠ '/' := by rcases hstop with rfl | rfl <;> decide
    have hblock : stop ≠ '*' := by rcases hstop with rfl | rfl <;> decide
    rw [List.nil_append, slashExtent_cons, if_neg hline, if_neg hblock, slashExtent_nil]
    exact (hregex []).trans (by cases regexAllowed <;> rfl)
  | cons c rest =>
    rw [slashExtent_cons] at h
    rw [List.cons_append, slashExtent_cons, slashExtent_cons]
    split
    · rename_i hline
      rw [if_pos hline] at h
      rcases h with ⟨-, hcomment⟩ | ⟨hlt, -⟩
      · cases hcomment
      · have hopen : (rest.takeWhile (· != '\n')).length < rest.length := by
          simp only [lineCommentLength, List.length_cons] at hlt
          omega
        rw [lineCommentLength, takeWhile_append_of_lt hopen]
        rfl
    · split
      · cases hclose : blockCommentLength? rest with
        | none => rw [blockCommentLength?_append_eq_none hclose htail.no_slash]
        | some n => rw [blockCommentLength?_append hclose]
      · rw [← List.cons_append]
        exact hregex (c :: rest)

/-- A token that is not left open at the end ends where it ends, also with other text behind. -/
theorem extent_append_stop {regexAllowed : Bool} {c : Char} (htail : EndsToken tail)
    (h : ClosedIn cs (extent regexAllowed c cs).1 (extent regexAllowed c cs).2) :
    extent regexAllowed c (cs ++ tail) = extent regexAllowed c cs := by
  obtain ⟨stop, rest, hstop, hcons⟩ := htail.isStop
  have hreads := reads_extent regexAllowed c
  generalize extent regexAllowed c = read at hreads h ⊢
  cases hreads with
  | word hc =>
    dsimp only
    rw [wordLength, hcons, takeWhile_append_stop hstop.isWordPart, ← wordLength]
  | number hc =>
    dsimp only
    rw [hcons, numberLength_append_stop hstop.endsNumber]
  | quoted hquote => exact quotedExtent_append_stop h tail
  | slash => exact slashExtent_append_stop htail h
  | mark hmark =>
    have hmarks : ∀ entry ∈ marks, stop ∉ entry.2.1 := by
      rcases hstop with rfl | rfl <;> decide
    rw [markExtent, hcons, isPrefixOf_append_stop (hmarks _ hmark), ← markExtent]
  | symbol => rfl

/-- A token in a text stays the same when what stands behind the text is exchanged. -/
theorem extent_cut {regexAllowed : Bool} {c : Char} {cs old tail : List Char} {kind : Kind}
    {n : Nat} (h : extent regexAllowed c (cs ++ old) = (kind, n)) (hle : n ≤ cs.length)
    (hclosed : ClosedIn cs kind n) (htail : EndsToken tail) :
    extent regexAllowed c (cs ++ tail) = (kind, n) := by
  have hcut : extent regexAllowed c cs = (kind, n) := by
    rw [← h]
    exact (extent_append_of_le (by rw [h]; exact hle)).symm
  rw [extent_append_stop htail (by rw [hcut]; exact hclosed), hcut]

/-! ## Runs of tokens -/

/-- Tokens as they stand in their text. -/
def spellings (tokens : List Token) : List Char :=
  tokens.flatMap fun token => token.spelling.toList

theorem spellings_cons (token : Token) (tokens : List Token) :
    spellings (token :: tokens) = token.spelling.toList ++ spellings tokens :=
  List.flatMap_cons

theorem getLast?_spellings {tokens : List Token} {last : Token} {c : Char}
    (hlast : last.text.toList.getLast? = some c) :
    (spellings (tokens ++ [last])).getLast? = some c := by
  simp [spellings, spelling, List.flatMap_append, List.getLast?_append, hlast]

/-- A run of tokens is read the same with another text behind it, if its last token is closed. -/
theorem scanFrom_cut {context : Context} {text : List Char} {tokens post : List Token}
    {last : Token} {c : Char} (h : scanFrom context text = tokens ++ last :: post)
    (herror : last.kind ≠ .error) (hcomment : last.kind.isComment = false)
    (hlast : last.text.toList.getLast? = some c) (hc : c ≠ '\\') :
    ∃ old final, text = spellings (tokens ++ [last]) ++ old ∧
      ∀ tail, EndsToken tail →
        scanFrom context (spellings (tokens ++ [last]) ++ tail) =
          tokens ++ last :: scanFrom final tail := by
  induction context, text using scan_induction generalizing tokens with
  | blank context space hspace =>
    rw [scanFrom_blank hspace] at h
    simp at h
  | token context space first body rest kind hspace hfirst hextent ih =>
    rw [scanFrom_token hspace hfirst hextent] at h
    have hspelling : (context.tokenAfter space kind (first :: body)).spelling.toList =
        space ++ first :: body := by
      simp [spelling, Context.tokenAfter, Context.token]
    cases tokens with
    | nil =>
      obtain ⟨rfl, hpost⟩ := List.cons.inj h
      refine ⟨rest, context.after space kind (first :: body), ?_, fun tail htail => ?_⟩
      · rw [List.nil_append, spellings_cons, hspelling]
        simp [spellings]
      · have hcut := extent_cut hextent (Nat.le_refl _) (.inl ⟨herror, hcomment⟩) htail
        rw [List.nil_append, spellings_cons, hspelling, spellings, List.flatMap_nil,
          List.append_nil, List.append_assoc, List.cons_append, scanFrom_token hspace hfirst hcut]
        rfl
    | cons token tokens =>
      obtain ⟨rfl, hrest⟩ := List.cons.inj h
      obtain ⟨old, final, rfl, hscan⟩ := ih hrest
      refine ⟨old, final, ?_, fun tail htail => ?_⟩
      · rw [List.cons_append, spellings_cons, hspelling]
        simp
      · -- The last token of the run stands behind this one, so this one is not open at the end.
        have hbehind := @getLast?_spellings tokens last c hlast
        rw [List.cons_append, spellings_cons, hspelling]
        generalize spellings (tokens ++ [last]) = run at hbehind hscan hextent ⊢
        rw [← List.append_assoc] at hextent
        have hcut := extent_cut hextent (by simp) (.of_getLast? hbehind hc kind) htail
        rw [List.append_assoc] at hcut
        rw [List.append_assoc, List.append_assoc, List.cons_append,
          scanFrom_token hspace hfirst hcut, hscan tail htail, List.cons_append]

end ComponentDocs.Token
