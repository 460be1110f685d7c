import Mathlib.Logic.ExistsUnique
import ComponentDocs.Proofs.Token.Scan

/-!
# Where tokens stand in their text

`Laid start text tokens` says that `tokens`, with blank space around them, make up `text`, which
begins at byte `start`.  Scanning lays out its tokens in this way (`laid_scanFrom`), and everything
about their places is read off the relation: tokens are slices of the text, they come one after
the other, and a character outside of them is blank.

`scan_lossless` puts these facts together in terms of the bytes of the text.
-/

namespace ComponentDocs

namespace Text

theorem byteSize_eq_utf8ByteSize (cs : List Char) :
    byteSize cs = (String.ofList cs).utf8ByteSize := by
  induction cs with
  | nil => rfl
  | cons c cs ih => rw [String.ofList_cons, String.utf8ByteSize_append, byteSize, ih]; simp

theorem byteSize_pos {cs : List Char} (hne : cs ≠ []) : 0 < byteSize cs := by
  obtain ⟨c, rest, rfl⟩ := List.exists_cons_of_ne_nil hne
  have hc := c.utf8Size_pos
  rw [byteSize]
  omega

end Text

namespace Token

open Text

/-- `tokens`, each after blank space, and blank space behind the last one make up a text that
begins at byte `start`. -/
inductive Laid : Nat → List Char → List Token → Prop
  | blank {start : Nat} {space : List Char} (hspace : ∀ c ∈ space, isSpace c = true) :
      Laid start space []
  | token {start : Nat} {space rest : List Char} {token : Token} {tokens : List Token}
      (hspace : ∀ c ∈ space, isSpace c = true) (htext : token.text.toList ≠ [])
      (hoffset : token.offset = start + byteSize space) (hrest : Laid token.stop rest tokens) :
      Laid start (space ++ (token.text.toList ++ rest)) (token :: tokens)

theorem laid_scanFrom (context : Context) (cs : List Char) :
    Laid context.offset cs (scanFrom context cs) := by
  induction context, cs using scan_induction with
  | blank context space hspace =>
    rw [scanFrom_blank hspace]
    exact .blank hspace
  | token context space c body tail kind hspace hc hextent ih =>
    rw [scanFrom_token hspace hc hextent]
    have htext : (context.tokenAfter space kind (c :: body)).text.toList = c :: body := by
      rw [Context.tokenAfter_text, String.toList_ofList]
    have hstop : (context.tokenAfter space kind (c :: body)).stop =
        (context.after space kind (c :: body)).offset := by
      rw [stop, htext, Context.after_offset]
      rfl
    have hlaid : Laid context.offset _ _ := .token hspace
      (by rw [htext]; exact List.cons_ne_nil c body) rfl (hstop ▸ ih)
    rw [htext] at hlaid
    exact hlaid

namespace Laid

variable {start : Nat} {text : List Char} {tokens : List Token} {token : Token}

/-! ## Tokens are slices of the text -/

theorem text_ne_nil (h : Laid start text tokens) (htoken : token ∈ tokens) :
    token.text.toList ≠ [] := by
  induction h with
  | blank hspace => cases htoken
  | token hspace htext hoffset hrest ih =>
    rcases List.mem_cons.1 htoken with rfl | htoken
    · exact htext
    · exact ih htoken

theorem exists_slice (h : Laid start text tokens) (htoken : token ∈ tokens) :
    ∃ before after, text = before ++ (token.text.toList ++ after) ∧
      token.offset = start + byteSize before := by
  induction h with
  | blank hspace => cases htoken
  | @token start space rest first tokens hspace htext hoffset hrest ih =>
    rcases List.mem_cons.1 htoken with rfl | htoken
    · exact ⟨space, rest, rfl, hoffset⟩
    · obtain ⟨before, after, hsplit, hat⟩ := ih htoken
      refine ⟨space ++ (first.text.toList ++ before), after, ?_, ?_⟩
      · rw [hsplit, List.append_assoc, List.append_assoc]
      · rw [hat, stop, hoffset, byteSize_append, byteSize_append]
        omega

/-! ## Tokens come one after the other -/

theorem start_le_offset (h : Laid start text tokens) (htoken : token ∈ tokens) :
    start ≤ token.offset := by
  obtain ⟨before, -, -, hat⟩ := h.exists_slice htoken
  omega

theorem pairwise_stop_le (h : Laid start text tokens) :
    tokens.Pairwise fun first second => first.stop ≤ second.offset := by
  induction h with
  | blank hspace => exact .nil
  | token hspace htext hoffset hrest ih =>
    exact .cons (fun second hsecond => hrest.start_le_offset hsecond) ih

theorem offset_lt_stop (h : Laid start text tokens) (htoken : token ∈ tokens) :
    token.offset < token.stop := by
  have hpos := byteSize_pos (h.text_ne_nil htoken)
  rw [stop]
  omega

end Laid

/-! ## Characters outside of tokens are blank -/

/-- The bytes from `first` up to `last` lie in the token. -/
def Holds (token : Token) (first last : Nat) : Prop :=
  token.offset ≤ first ∧ last ≤ token.stop

/-- The bytes from `first` up to `last` lie before or behind the token. -/
def Misses (token : Token) (first last : Nat) : Prop :=
  last ≤ token.offset ∨ token.stop ≤ first

/-- A character of a text in two parts stands in one of the parts. -/
theorem append_eq_append_cons {part other before after : List Char} {c : Char}
    (h : part ++ other = before ++ c :: after) :
    (∃ more, part = before ++ c :: more ∧ after = more ++ other) ∨
      ∃ more, before = part ++ more ∧ other = more ++ c :: after := by
  rcases List.append_eq_append_iff.1 h with ⟨more, hbefore, hother⟩ | ⟨more, hpart, hafter⟩
  · exact .inr ⟨more, hbefore, hother⟩
  · cases more with
    | nil => exact .inr ⟨[], by simpa using hpart.symm, hafter.symm⟩
    | cons first more =>
      obtain ⟨rfl, hrest⟩ := List.cons.inj hafter
      exact .inl ⟨more, hpart, hrest⟩

/-- A character lies in a token, or it is blank and outside of all tokens. -/
theorem Laid.holds_or_blank {start : Nat} {text before after : List Char} {tokens : List Token}
    {c : Char} (h : Laid start text tokens) (hsplit : text = before ++ c :: after) :
    (∃ token ∈ tokens,
        token.Holds (start + byteSize before) (start + byteSize before + c.utf8Size)) ∨
      isSpace c = true ∧ ∀ token ∈ tokens,
        token.Misses (start + byteSize before) (start + byteSize before + c.utf8Size) := by
  induction h generalizing before with
  | blank hspace =>
    exact .inr ⟨hspace c (by rw [hsplit]; simp), by simp⟩
  | @token start space rest first tokens hspace htext hoffset hrest ih =>
    have hstop : first.stop = start + byteSize space + byteSize first.text.toList := by
      rw [stop, hoffset]
    rcases append_eq_append_cons hsplit with ⟨more, hin, -⟩ | ⟨more, rfl, hother⟩
    · -- In the blank space before the first token.
      have hsize : byteSize space = byteSize before + (c.utf8Size + byteSize more) := by
        rw [hin, byteSize_append, byteSize]
      refine .inr ⟨hspace c (by rw [hin]; simp), ?_⟩
      intro token htoken
      refine .inl ?_
      rcases List.mem_cons.1 htoken with rfl | htoken
      · omega
      · have hbehind := hrest.start_le_offset htoken
        omega
    · rw [byteSize_append]
      rcases append_eq_append_cons hother with ⟨others, hin, -⟩ | ⟨others, rfl, hbehind⟩
      · have hsize : byteSize first.text.toList =
            byteSize more + (c.utf8Size + byteSize others) := by
          rw [hin, byteSize_append, byteSize]
        exact .inl ⟨first, List.mem_cons_self, by omega, by omega⟩
      · -- Behind the first token, where the other tokens are laid.
        have hplace : start + (byteSize space + byteSize (first.text.toList ++ others)) =
            first.stop + byteSize others := by
          rw [hstop, byteSize_append]
          omega
        rw [hplace]
        rcases ih hbehind with ⟨token, htoken, hholds⟩ | ⟨hc, hmisses⟩
        · exact .inl ⟨token, List.mem_cons_of_mem first htoken, hholds⟩
        · refine .inr ⟨hc, ?_⟩
          intro token htoken
          rcases List.mem_cons.1 htoken with rfl | htoken
          · exact .inr (by omega)
          · exact hmisses token htoken

/-- No character lies in two tokens. -/
theorem Laid.eq_of_holds {start : Nat} {text : List Char} {tokens : List Token}
    {token other : Token} {first last : Nat} (h : Laid start text tokens)
    (htoken : token ∈ tokens) (hother : other ∈ tokens) (hlt : first < last)
    (hholds : token.Holds first last) (hholds' : other.Holds first last) : token = other := by
  obtain ⟨hfirst, hlast⟩ := hholds
  obtain ⟨hfirst', hlast'⟩ := hholds'
  have hordered := List.pairwise_iff_getElem.1 h.pairwise_stop_le
  obtain ⟨i, hi, rfl⟩ := List.getElem_of_mem htoken
  obtain ⟨j, hj, rfl⟩ := List.getElem_of_mem hother
  rcases Nat.lt_trichotomy i j with hij | rfl | hji
  · have hle := hordered i j hi hj hij
    omega
  · rfl
  · have hle := hordered j i hj hi hji
    omega

/-! ## The bytes of the text -/

/-- A part of a text in terms of its bytes. -/
theorem isValid_extract_of_split {source : String} {before part after : List Char}
    (hsplit : source.toList = before ++ (part ++ after)) :
    String.Pos.Raw.IsValid source ⟨byteSize before⟩ ∧
      String.Pos.Raw.IsValid source ⟨byteSize before + byteSize part⟩ ∧
      source.toByteArray.extract (byteSize before) (byteSize before + byteSize part) =
        (String.ofList part).toByteArray := by
  have hsource : source = String.ofList before ++ (String.ofList part ++ String.ofList after) := by
    rw [← String.ofList_append, ← String.ofList_append, ← hsplit, String.ofList_toList]
  rw [byteSize_eq_utf8ByteSize, byteSize_eq_utf8ByteSize]
  refine ⟨?_, ?_, ?_⟩
  · exact String.Pos.Raw.isValid_iff_exists_append.2 ⟨_, _, hsource, rfl⟩
  · refine String.Pos.Raw.isValid_iff_exists_append.2
      ⟨String.ofList before ++ String.ofList part, String.ofList after, ?_, ?_⟩
    · rw [hsource, String.append_assoc]
    · rw [String.rawEndPos, String.utf8ByteSize_append]
  · rw [hsource, String.toByteArray_append, String.toByteArray_append, ← String.size_toByteArray,
      ← String.size_toByteArray]
    exact (ByteArray.extract_append_size_add (i := 0)).trans (ByteArray.extract_append_eq_left rfl)

/-- Scanning loses nothing.  Every token is the part of the text from its offset to its end, tokens
come one after the other, and every character lies in exactly one token or is blank space outside of
all tokens. -/
theorem scan_lossless (source : String) :
    (∀ token ∈ scan source, token.text ≠ "" ∧
        String.Pos.Raw.IsValid source ⟨token.offset⟩ ∧
        String.Pos.Raw.IsValid source ⟨token.stop⟩ ∧
        source.toByteArray.extract token.offset token.stop = token.text.toByteArray) ∧
      ((scan source).Pairwise fun first second =>
        first.offset < second.offset ∧ first.stop ≤ second.offset) ∧
      ∀ before c after, source.toList = before ++ c :: after →
        (∃! token, token ∈ scan source ∧
            token.Holds (byteSize before) (byteSize before + c.utf8Size)) ∨
          isSpace c = true ∧ ∀ token ∈ scan source,
            token.Misses (byteSize before) (byteSize before + c.utf8Size) := by
  have hlaid : Laid 0 source.toList (scan source) := laid_scanFrom .start source.toList
  refine ⟨?_, ?_, ?_⟩
  · intro token htoken
    obtain ⟨before, after, hsplit, hoffset⟩ := hlaid.exists_slice htoken
    rw [Nat.zero_add] at hoffset
    have hbytes := isValid_extract_of_split hsplit
    rw [String.ofList_toList, ← hoffset, ← stop] at hbytes
    refine ⟨?_, hbytes⟩
    intro hempty
    exact hlaid.text_ne_nil htoken (by rw [hempty]; rfl)
  · refine hlaid.pairwise_stop_le.imp_of_mem ?_
    intro first second hfirst hsecond hle
    exact ⟨Nat.lt_of_lt_of_le (hlaid.offset_lt_stop hfirst) hle, hle⟩
  · intro before c after hsplit
    have hcases := hlaid.holds_or_blank hsplit
    rw [Nat.zero_add] at hcases
    refine hcases.imp_left ?_
    rintro ⟨token, htoken, hholds⟩
    refine ⟨token, ⟨htoken, hholds⟩, ?_⟩
    rintro other ⟨hother, hholds'⟩
    have hlt : byteSize before < byteSize before + c.utf8Size :=
      Nat.lt_add_of_pos_right c.utf8Size_pos
    exact hlaid.eq_of_holds hother htoken hlt hholds' hholds

end Token

end ComponentDocs
