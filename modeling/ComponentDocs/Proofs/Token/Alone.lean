import ComponentDocs.Proofs.Token.Cut

/-!
# Tokens on their own

The text of a token is a source text too, and scanning it gives back the token: its kind does not
come from what stands around it (`scan_text_of_mem`).

Two things could make a difference.  What stands behind a token decides how long it is, but a token
that ends before it does not change when it is left out (`extent_append_of_le`).  What stands before
a slash decides whether it may begin a regular expression.  At the start of a text it may, and where
it may not, a slash that begins no comment is the whole token.
-/

namespace ComponentDocs.Token

variable {regexAllowed : Bool} {c : Char} {body rest : List Char} {kind : Kind}

/-- A slash with its characters is the same where a regular expression is allowed. -/
theorem slashExtent_true (h : slashExtent regexAllowed body = (kind, body.length)) :
    slashExtent true body = (kind, body.length) := by
  cases body with
  | nil =>
    rw [slashExtent_nil] at h ⊢
    exact h
  | cons d more =>
    rw [slashExtent_cons] at h ⊢
    split
    · rename_i hline
      rwa [if_pos hline] at h
    · rename_i hline
      rw [if_neg hline] at h
      split
      · rename_i hblock
        rwa [if_pos hblock] at h
      · rename_i hblock
        rw [if_neg hblock] at h
        cases regexAllowed with
        | true => exact h
        | false =>
          -- A slash that only divides has no further character.
          have hlength : 0 = (d :: more).length := congrArg Prod.snd h
          cases hlength

/-- The characters of a token are a token at the start of a text. -/
theorem extent_alone (h : extent regexAllowed c (body ++ rest) = (kind, body.length)) :
    extent true c body = (kind, body.length) := by
  have hcut : extent regexAllowed c body = (kind, body.length) := by
    rw [← h]
    exact (extent_append_of_le (Nat.le_of_eq (congrArg Prod.snd h))).symm
  by_cases hslash : c = '/'
  · subst hslash
    exact slashExtent_true hcut
  · rw [← hcut]
    unfold extent
    simp only [if_neg hslash]

/-- A token is its own text scanned at the start of a text. -/
theorem scanFrom_text_of_mem {context : Context} {cs : List Char} {token : Token}
    (htoken : token ∈ scanFrom context cs) :
    scanFrom .start token.text.toList = [⟨token.kind, token.text, "", 0, 1, false⟩] := by
  induction context, cs using scan_induction with
  | blank context space hspace =>
    rw [scanFrom_blank hspace] at htoken
    cases htoken
  | token context space c body tail kind hspace hc hextent ih =>
    rw [scanFrom_token hspace hc hextent] at htoken
    rcases List.mem_cons.1 htoken with rfl | htoken
    · have halone : extent (Context.start.skip []).regexAllowed c (body ++ []) =
          (kind, body.length) := by
        rw [List.append_nil]
        exact extent_alone hextent
      have hscan := scanFrom_token (List.forall_mem_nil _) hc halone
      rw [List.nil_append, List.append_nil, scanFrom_blank (List.forall_mem_nil _)] at hscan
      rw [Context.tokenAfter_text, String.toList_ofList, hscan]
      rfl
    · exact ih htoken

/-- A token stands on its own: scanning its text gives this one token, whatever surrounded it. -/
theorem scan_text_of_mem {source : String} {token : Token} (htoken : token ∈ scan source) :
    scan token.text = [⟨token.kind, token.text, "", 0, 1, false⟩] :=
  scanFrom_text_of_mem htoken

-- A regular expression behind a line of code, and the quote of a string that is not closed.
theorem scan_text_of_mem_regex :
    (scan "x\n/[/']+/g 'y").map text = ["x", "/[/']+/g", "'y"] ∧
      scan "/[/']+/g" = [⟨.regex, "/[/']+/g", "", 0, 1, false⟩] ∧
      scan "'y" = [⟨.error, "'y", "", 0, 1, false⟩] := by
  have hregex : ⟨.regex, "/[/']+/g", "\n", 2, 2, true⟩ ∈ scan "x\n/[/']+/g 'y" := by decide +kernel
  have hquote : ⟨.error, "'y", " ", 11, 2, false⟩ ∈ scan "x\n/[/']+/g 'y" := by decide +kernel
  exact ⟨by decide +kernel, scan_text_of_mem hregex, scan_text_of_mem hquote⟩

end ComponentDocs.Token
