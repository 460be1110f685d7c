import ComponentDocs.Proofs.Declaration.Terminal
import ComponentDocs.Proofs.Token.LineBreak

/-!
# Points of a token list

A place, which is a list of terminals, can also be given by two numbers: the index of the token
that is next, and the byte where the last token that was consumed ends.  A `Point` is such a pair.
Reading starts at the first token that is not a comment and consumes one token after the other,
each with the comments behind it, so it is always at one of the points `reached tokens k`.

`Sound` is what holds of the two numbers.  Skipping comments establishes it
(`sound_skipComments`), so it holds at the start and after each token (`sound_reached`).  The place
that belongs to the point after `k` tokens is the list of terminals without the first `k` ones
(`current?_reached`), and the terminals before it say where the last token ends
(`lastStop_reached`).
-/

namespace ComponentDocs

structure Point where
  /-- The number of tokens before the next one. -/
  index : Nat
  /-- Byte offset of the end of the last token that was consumed. -/
  lastStop : Nat
  deriving DecidableEq

namespace Point

/-- The token that is next. -/
def current? (tokens : List Token) (point : Point) : Option Token :=
  tokens[point.index]?

def skipComments (tokens : List Token) (point : Point) : Point :=
  ⟨point.index +
      ((tokens.drop point.index).takeWhile fun token => token.kind.isComment).length,
    point.lastStop⟩

def start (tokens : List Token) : Point :=
  skipComments tokens ⟨0, 0⟩

/-- The point after the next token, if there is one. -/
def advance (tokens : List Token) (point : Point) : Point :=
  match point.current? tokens with
  | none => point
  | some token => skipComments tokens ⟨point.index + 1, token.stop⟩

/-- The point after this many tokens. -/
def reached (tokens : List Token) : Nat → Point
  | 0 => start tokens
  | k + 1 => advance tokens (reached tokens k)

/-- Byte offset of the token that is next, or of the end of the text. -/
def offset (source : String) (point : Point) : Nat :=
  (point.current? (Token.scan source)).elim source.utf8ByteSize Token.offset

/-- The next token is no comment, and the byte offset is where the last one before it that is no
comment ends. -/
structure Sound (tokens : List Token) (point : Point) : Prop where
  index_le : point.index ≤ tokens.length
  isComment_current : ∀ token, point.current? tokens = some token → token.kind.isComment = false
  lastStop_eq : point.lastStop = Token.codeStop 0 (tokens.take point.index)

end Point

namespace Token

/-! ## Comments at the end -/

theorem filter_comments {comments : List Token}
    (hcomments : ∀ comment ∈ comments, comment.kind.isComment = true) :
    (comments.filter fun token => !token.kind.isComment) = [] := by
  rw [List.filter_eq_nil_iff]
  intro comment hcomment
  rw [hcomments comment hcomment]
  decide

theorem codeStop_append_comments {comments : List Token}
    (hcomments : ∀ comment ∈ comments, comment.kind.isComment = true) (start : Nat)
    (tokens : List Token) : codeStop start (tokens ++ comments) = codeStop start tokens := by
  rw [codeStop, codeStop, List.filter_append, filter_comments hcomments, List.append_nil]

theorem codeStop_concat {token : Token} (htoken : token.kind.isComment = false) (start : Nat)
    (tokens : List Token) : codeStop start (tokens ++ [token]) = token.stop := by
  have hlast : ([token].filter fun token => !token.kind.isComment) = [token] := by
    rw [List.filter_cons_of_pos (by simp [htoken]), List.filter_nil]
  rw [codeStop, List.filter_append, hlast, List.getLast?_concat, Option.elim_some]

end Token

namespace Point

open Token Terminal

variable {tokens : List Token} {point : Point} {token : Token}

/-! ## Skipping comments -/

theorem current?_eq_head? (tokens : List Token) (point : Point) :
    point.current? tokens = (tokens.drop point.index).head? :=
  List.head?_drop.symm

/-- The tokens from a point on are the comments that are skipped and the tokens behind them, the
first of which is no comment. -/
theorem exists_skipped (tokens : List Token) (point : Point) :
    ∃ comments, tokens.drop point.index =
        comments ++ tokens.drop (point.skipComments tokens).index ∧
      (point.skipComments tokens).index = point.index + comments.length ∧
      (∀ comment ∈ comments, comment.kind.isComment = true) ∧
      ∀ token, (point.skipComments tokens).current? tokens = some token →
        token.kind.isComment = false := by
  have hrest : tokens.drop (point.skipComments tokens).index =
      (tokens.drop point.index).dropWhile fun token => token.kind.isComment := by
    have hdrop := @List.drop_left Token
      ((tokens.drop point.index).takeWhile fun token => token.kind.isComment)
      ((tokens.drop point.index).dropWhile fun token => token.kind.isComment)
    rw [List.takeWhile_append_dropWhile, List.drop_drop] at hdrop
    exact hdrop
  refine ⟨_, ?_, rfl, ?_, ?_⟩
  · rw [hrest, List.takeWhile_append_dropWhile]
  · intro comment hcomment
    exact List.all_eq_true.1 List.all_takeWhile comment hcomment
  · intro token htoken
    have hhead := List.head?_dropWhile_not (fun token : Token => token.kind.isComment)
      (tokens.drop point.index)
    rw [current?_eq_head?, hrest] at htoken
    rw [htoken] at hhead
    simpa using hhead

/-- Skipping comments leads to a sound point from wherever the last token before them ends. -/
theorem sound_skipComments (hindex : point.index ≤ tokens.length)
    (hstop : point.lastStop = codeStop 0 (tokens.take point.index)) :
    Sound tokens (point.skipComments tokens) := by
  obtain ⟨comments, hsplit, hskipped, hcomments, hcurrent⟩ := exists_skipped tokens point
  refine ⟨?_, hcurrent, ?_⟩
  · have hlength := congrArg List.length hsplit
    rw [List.length_drop, List.length_append] at hlength
    omega
  · have htake : tokens.take (point.skipComments tokens).index =
        tokens.take point.index ++ comments := by
      rw [hskipped, List.take_add, hsplit, List.take_left]
    rw [htake, codeStop_append_comments hcomments, ← hstop]
    rfl

theorem filter_drop_skipComments (tokens : List Token) (point : Point) :
    ((tokens.drop (point.skipComments tokens).index).filter fun token => !token.kind.isComment) =
      (tokens.drop point.index).filter fun token => !token.kind.isComment := by
  obtain ⟨comments, hsplit, -, hcomments, -⟩ := exists_skipped tokens point
  rw [hsplit, List.filter_append, filter_comments hcomments, List.nil_append]

/-! ## One token after the other -/

theorem sound_start (tokens : List Token) : Sound tokens (start tokens) :=
  sound_skipComments (Nat.zero_le _) rfl

/-- A point where a token is next. -/
theorem exists_rest (h : point.current? tokens = some token) :
    tokens.drop point.index = token :: tokens.drop (point.index + 1) ∧
      point.index < tokens.length := by
  obtain ⟨hlt, hget⟩ := List.getElem?_eq_some_iff.1 h
  rw [← hget]
  exact ⟨List.drop_eq_getElem_cons hlt, hlt⟩

/-- Consuming a token leads from one sound point to another one. -/
theorem Sound.advance (h : Sound tokens point) : Sound tokens (point.advance tokens) := by
  unfold Point.advance
  split
  · exact h
  · rename_i token hcurrent
    obtain ⟨hrest, hlt⟩ := exists_rest hcurrent
    apply sound_skipComments
    · exact hlt
    · have htake : tokens.take (point.index + 1) = tokens.take point.index ++ [token] := by
        rw [List.take_add, hrest, List.take_succ_cons, List.take_zero]
      rw [htake, codeStop_concat (h.isComment_current token hcurrent)]

/-- All points that are reached are sound. -/
theorem sound_reached (tokens : List Token) (k : Nat) : Sound tokens (reached tokens k) := by
  induction k with
  | zero => exact sound_start tokens
  | succ k ih => exact ih.advance

/-! ## Places -/

/-- The tokens from the point after `k` tokens on are, without comments, those of the place without
the first `k` terminals. -/
theorem filter_drop_reached (tokens : List Token) (k : Nat) :
    ((tokens.drop (reached tokens k).index).filter fun token => !token.kind.isComment) =
      ((ofTokens tokens).drop k).map Terminal.token := by
  induction k with
  | zero =>
    rw [reached, start, filter_drop_skipComments, List.drop_zero, List.drop_zero,
      map_token_ofTokens]
  | succ k ih =>
    rw [List.map_drop] at ih
    rw [List.map_drop, ← List.tail_drop, ← ih, reached, advance]
    split
    · rename_i hcurrent
      rw [current?_eq_head?, List.head?_eq_none_iff] at hcurrent
      rw [hcurrent]
      rfl
    · rename_i token hcurrent
      have hcode := (sound_reached tokens k).isComment_current token hcurrent
      rw [filter_drop_skipComments, (exists_rest hcurrent).1,
        List.filter_cons_of_pos (by simp [hcode]), List.tail_cons]

/-- The next token is that of the first terminal. -/
theorem current?_reached (tokens : List Token) (k : Nat) :
    (reached tokens k).current? tokens = ((ofTokens tokens).drop k).head?.map Terminal.token := by
  have hfilter := filter_drop_reached tokens k
  rw [← List.head?_map, ← hfilter, current?_eq_head?]
  cases hrest : tokens.drop (reached tokens k).index with
  | nil => rfl
  | cons token rest =>
    have hcode := (sound_reached tokens k).isComment_current token
      (by rw [current?_eq_head?, hrest, List.head?_cons])
    rw [List.filter_cons_of_pos (by simp [hcode]), List.head?_cons, List.head?_cons]

theorem filter_take_reached (tokens : List Token) (k : Nat) :
    ((tokens.take (reached tokens k).index).filter fun token => !token.kind.isComment) =
      ((ofTokens tokens).take k).map Terminal.token := by
  have hwhole : ((tokens.take (reached tokens k).index).filter fun token => !token.kind.isComment) ++
      ((ofTokens tokens).drop k).map Terminal.token =
        ((ofTokens tokens).take k).map Terminal.token ++
          ((ofTokens tokens).drop k).map Terminal.token := by
    rw [← List.map_append, List.take_append_drop, ← filter_drop_reached, ← List.filter_append,
      List.take_append_drop, map_token_ofTokens]
  exact List.append_cancel_right hwhole

/-- The last terminal before the place says where the last token ends. -/
theorem lastStop_reached (tokens : List Token) (k : Nat) :
    (reached tokens k).lastStop =
      ((ofTokens tokens).take k).getLast?.elim 0 fun t => t.token.stop := by
  rw [(sound_reached tokens k).lastStop_eq, codeStop, filter_take_reached, List.getLast?_map]
  cases ((ofTokens tokens).take k).getLast? <;> rfl

-- Comments before and behind the terminals, and no more terminals in the end.
example : (List.range 5).map (reached (scan "/* é */ a.b // c")) =
    [⟨1, 0⟩, ⟨2, 10⟩, ⟨3, 11⟩, ⟨5, 12⟩, ⟨5, 12⟩] := by
  decide +kernel

end Point

end ComponentDocs
