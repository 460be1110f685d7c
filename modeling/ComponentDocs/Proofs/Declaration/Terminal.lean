import ComponentDocs.Declaration.Terminal

/-!
# Terminals of tokens

A comment goes to the terminal after it, so a list of tokens that ends with a terminal can be read
apart from what follows it (`ofTokens_concat_append`), and no character of it is lost
(`flatMap_ofTokens`).
-/

namespace ComponentDocs.Terminal

theorem doc_attach (comment : Token) (t : Terminal) :
    doc { t with comments := comment :: t.comments } =
      t.doc.or (if comment.isDocBlock then some comment.text else none) := by
  simp only [doc, List.reverse_cons, List.find?_append, Option.map_or, List.find?_singleton]
  split <;> rfl

theorem leading_attach (comment : Token) (t : Terminal) :
    leading { t with comments := comment :: t.comments } = comment.spelling.toList ++ t.leading := by
  simp only [leading, List.flatMap_cons, List.append_assoc]

/-- A list of tokens that does not end with a comment leaves none for the tokens behind it. -/
theorem ofTokens_concat_append {last : Token} (hlast : last.kind.isComment = false)
    (tokens more : List Token) :
    ∃ before comments, ofTokens (tokens ++ [last]) = before ++ [⟨comments, last⟩] ∧
      ofTokens (tokens ++ [last] ++ more) = before ++ ⟨comments, last⟩ :: ofTokens more := by
  induction tokens with
  | nil =>
    refine ⟨[], [], ?_, ?_⟩ <;>
      simp only [List.nil_append, List.cons_append, ofTokens, hlast, Bool.false_eq_true, if_false]
  | cons token tokens ih =>
    obtain ⟨before, comments, hleft, hboth⟩ := ih
    rw [List.cons_append, List.cons_append, ofTokens, ofTokens, hleft, hboth]
    split
    · cases before with
      | nil => exact ⟨[], token :: comments, rfl, rfl⟩
      | cons first before => exact ⟨_ :: before, comments, rfl, rfl⟩
    · exact ⟨⟨[], token⟩ :: before, comments, rfl, rfl⟩

/-- The terminals of such a list are written like its tokens. -/
theorem flatMap_ofTokens {last : Token} (hlast : last.kind.isComment = false)
    (tokens : List Token) :
    (ofTokens (tokens ++ [last])).flatMap (fun t => t.leading ++ t.text.toList) =
      (tokens ++ [last]).flatMap fun token => token.spelling.toList := by
  induction tokens with
  | nil =>
    rw [List.nil_append, ofTokens, hlast]
    simp [ofTokens, leading, Token.spelling]
  | cons token tokens ih =>
    obtain ⟨before, comments, hterminals, -⟩ := ofTokens_concat_append hlast tokens []
    rw [List.cons_append, List.flatMap_cons, ← ih, ofTokens, hterminals]
    split
    · cases before <;> simp [attach, leading]
    · simp [leading, Token.spelling]

/-- The terminals are the tokens that are not comments. -/
theorem map_token_ofTokens (tokens : List Token) :
    (ofTokens tokens).map token = tokens.filter fun token => !token.kind.isComment := by
  induction tokens with
  | nil => rfl
  | cons token tokens ih =>
    rw [ofTokens]
    split
    · rename_i hcomment
      rw [List.filter_cons_of_neg (by simp [hcomment]), ← ih]
      cases ofTokens tokens <;> rfl
    · rename_i hcomment
      rw [List.filter_cons_of_pos (by simpa using hcomment), List.map_cons, ih]

theorem map_kind_ofTokens (tokens : List Token) :
    (ofTokens tokens).map kind =
      (tokens.filter fun token => !token.kind.isComment).map Token.kind := by
  rw [← map_token_ofTokens, List.map_map]
  rfl

/-- The text of what stands before `after`, trimmed. -/
theorem capture_left (before after : List Terminal) :
    capture (before ++ after) after = String.ofList (Text.trim (spelling before)) := by
  have hlength : (before ++ after).length - after.length = before.length := by
    rw [List.length_append, Nat.add_sub_cancel]
  rw [capture, hlength, List.take_left]

/-- Of the terminal where a text begins only its own text is part of it. -/
theorem capture_head {t u : Terminal} (h : u.text = t.text) {rest after : List Terminal}
    (hafter : after <:+ rest) : capture (u :: rest) after = capture (t :: rest) after := by
  have hlength : ∀ first : Terminal,
      (first :: rest).length - after.length = (rest.length - after.length) + 1 := by
    have hle := hafter.length_le
    intro first
    rw [List.length_cons]
    omega
  rw [capture, capture, hlength, hlength, List.take_succ_cons, List.take_succ_cons, spelling,
    spelling, h]

end ComponentDocs.Terminal
