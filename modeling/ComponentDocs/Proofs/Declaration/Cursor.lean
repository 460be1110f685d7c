import ComponentDocs.Proofs.Text.Trim
import ComponentDocs.Proofs.Token.Scan
import ComponentDocs.Declaration.Terminal

/-!
# Reading a text along a cursor

A cursor stands between two tokens of a text.  It knows what scanning remembers there, and it holds
the blank space and the comments that have been passed since the last terminal, because they
belong to the next one.  `Cursor.terminals` are the terminals from the cursor to the end of a text.

The lemmas move the cursor past what stands at the front of the text: blank space, a comment, or a
token that is not a comment.  A round trip is then stated as usual: a parser at
`cursor.terminals (printed ++ rest)` yields what was printed and stops at `other.terminals rest`.
-/

namespace ComponentDocs

/-! ## Blank characters -/

namespace Text

open Literal Token

theorem isBlank_of_isSpace {c : Char} (hc : isSpace c = true) : isBlank c = true := by
  simp only [isSpace, Bool.or_eq_true, beq_iff_eq] at hc
  rcases hc with (((rfl | rfl) | rfl) | rfl) | rfl <;> decide

theorem forall_isAscii {p : Char → Prop} (hp : ∀ n : Fin 128, p (Char.ofNat n)) {c : Char}
    (hc : isAscii c = true) : p c := by
  have hchar := hp ⟨c.toNat, of_decide_eq_true hc⟩
  rwa [Char.ofNat_toNat] at hchar

theorem isAscii_of_isWordPart {c : Char} (hc : isWordPart c = true) : isAscii c = true := by
  simp only [isWordPart, isWordStart, isAsciiLetter, isAsciiDigit, Bool.or_eq_true,
    Bool.and_eq_true, decide_eq_true_eq, beq_iff_eq, Char.le_def, UInt32.le_iff_toNat_le] at hc
  refine decide_eq_true ?_
  rcases hc with (((⟨-, h⟩ | ⟨-, h⟩) | rfl) | rfl) | ⟨-, h⟩
  · exact Nat.lt_of_le_of_lt h (by decide)
  · exact Nat.lt_of_le_of_lt h (by decide)
  · decide
  · decide
  · exact Nat.lt_of_le_of_lt h (by decide)

/-- A property of the characters of words can be checked one by one. -/
theorem forall_isWordPart {p : Char → Prop}
    (hp : ∀ n : Fin 128, isWordPart (Char.ofNat n) = true → p (Char.ofNat n)) {c : Char}
    (hc : isWordPart c = true) : p c :=
  forall_isAscii (p := fun c => isWordPart c = true → p c) hp (isAscii_of_isWordPart hc) hc

theorem isBlank_of_isWordPart {c : Char} (hc : isWordPart c = true) : isBlank c = false :=
  forall_isWordPart (p := fun c => isBlank c = false) (by decide) hc

end Text

open Text Token Literal

/-! ## Names -/

/-- Letters, digits, `_` and `$`, with no digit in front. -/
def isName : List Char → Bool
  | [] => false
  | c :: rest => isWordStart c && rest.all isWordPart

/-- A name of the language, which may be one of its keywords. -/
structure Identifier where
  text : String
  isName_text : isName text.toList = true

/-- The characters of a name. -/
def Identifier.chars (name : Identifier) : List Char :=
  name.text.toList

@[simp] theorem Identifier.ofList_chars (name : Identifier) : String.ofList name.chars = name.text :=
  String.ofList_toList

theorem Identifier.isWordPart_of_mem (name : Identifier) {c : Char} (hc : c ∈ name.chars) :
    isWordPart c = true := by
  have hname := name.isName_text
  rw [chars] at hc
  cases hchars : name.text.toList with
  | nil =>
    rw [hchars] at hc
    cases hc
  | cons first others =>
    rw [hchars, isName, Bool.and_eq_true] at hname
    rw [hchars] at hc
    rcases List.mem_cons.1 hc with rfl | hc
    · rw [isWordPart, hname.1, Bool.true_or]
    · exact List.all_eq_true.1 hname.2 c hc

/-- A point of a text between two tokens. -/
structure Cursor where
  context : Context
  /-- The blank space since the last token. -/
  space : List Char
  /-- The comments since the last terminal. -/
  comments : List Token
  isSpace_space : ∀ c ∈ space, isSpace c = true

namespace Cursor

def start : Cursor :=
  ⟨.start, [], [], List.forall_mem_nil _⟩

/-- The line at which the cursor stands. -/
def line (cursor : Cursor) : Nat :=
  cursor.context.line + countNewlines cursor.space

/-- A line feed was passed since the last terminal. -/
def newline (cursor : Cursor) : Bool :=
  (cursor.context.skip cursor.space).newline

/-- Puts comments in front of the first terminal. -/
def attachAll (comments : List Token) : List Terminal → List Terminal
  | [] => []
  | t :: rest => { t with comments := comments ++ t.comments } :: rest

@[simp] theorem attachAll_nil (ts : List Terminal) : attachAll [] ts = ts := by
  cases ts <;> rfl

/-- The terminals of the text that follows. -/
def terminals (cursor : Cursor) (rest : List Char) : List Terminal :=
  attachAll cursor.comments
    (Terminal.ofTokens (scanFrom cursor.context (cursor.space ++ rest)))

/-- The terminal of this kind and text at the cursor. -/
def terminal (cursor : Cursor) (kind : Kind) (text : List Char) : Terminal :=
  ⟨cursor.comments, cursor.context.tokenAfter cursor.space kind text⟩

/-- The doc block nearest to the cursor. -/
def doc (cursor : Cursor) : Option String :=
  (cursor.comments.reverse.find? isDocBlock).map Token.text

@[simp] theorem doc_terminal (cursor : Cursor) (kind : Kind) (text : List Char) :
    (cursor.terminal kind text).doc = cursor.doc :=
  rfl

@[simp] theorem text_terminal (cursor : Cursor) (kind : Kind) (text : List Char) :
    (cursor.terminal kind text).text = String.ofList text :=
  rfl

@[simp] theorem kind_terminal (cursor : Cursor) (kind : Kind) (text : List Char) :
    (cursor.terminal kind text).kind = kind :=
  rfl

@[simp] theorem line_terminal (cursor : Cursor) (kind : Kind) (text : List Char) :
    (cursor.terminal kind text).line = cursor.line :=
  rfl

@[simp] theorem newlineBefore_terminal (cursor : Cursor) (kind : Kind) (text : List Char) :
    (cursor.terminal kind text).newlineBefore = cursor.newline :=
  rfl

@[simp] theorem isWord_terminal (cursor : Cursor) (name : Identifier) (word : String) :
    (cursor.terminal .word name.chars).isWord word = (name.text == word) := by
  simp [Terminal.isWord, Identifier.chars]

/-! ## Moving the cursor -/

/-- The cursor after blank space. -/
def skip (cursor : Cursor) (space : List Char) (hspace : ∀ c ∈ space, isSpace c = true) : Cursor :=
  ⟨cursor.context, cursor.space ++ space, cursor.comments,
    List.forall_mem_append.2 ⟨cursor.isSpace_space, hspace⟩⟩

/-- The cursor after a terminal. -/
def pass (cursor : Cursor) (kind : Kind) (text : List Char) : Cursor :=
  ⟨cursor.context.after cursor.space kind text, [], [], List.forall_mem_nil _⟩

/-- The cursor after a comment. -/
def note (cursor : Cursor) (kind : Kind) (text : List Char) : Cursor :=
  ⟨cursor.context.after cursor.space kind text, [],
    cursor.comments ++ [cursor.context.tokenAfter cursor.space kind text], List.forall_mem_nil _⟩

@[simp] theorem line_skip (cursor : Cursor) {space : List Char}
    (hspace : ∀ c ∈ space, isSpace c = true) :
    (cursor.skip space hspace).line = cursor.line + countNewlines space := by
  rw [line, skip, countNewlines_append, ← Nat.add_assoc]
  rfl

@[simp] theorem line_pass (cursor : Cursor) (kind : Kind) (text : List Char) :
    (cursor.pass kind text).line = cursor.line + countNewlines text :=
  rfl

@[simp] theorem line_note (cursor : Cursor) (kind : Kind) (text : List Char) :
    (cursor.note kind text).line = cursor.line + countNewlines text :=
  rfl

theorem newline_skip (cursor : Cursor) {space : List Char}
    (hspace : ∀ c ∈ space, isSpace c = true) :
    (cursor.skip space hspace).newline = (cursor.newline || space.contains '\n') := by
  rw [newline, skip, Context.skip_append]
  rfl

@[simp] theorem newline_pass (cursor : Cursor) {kind : Kind} (hkind : kind.isComment = false)
    (text : List Char) : (cursor.pass kind text).newline = false := by
  rw [newline, pass, Context.skip_nil, Context.newline_after, hkind, Bool.false_and]

@[simp] theorem leading_terminal_pass (cursor : Cursor) (kind kind' : Kind)
    (text text' : List Char) : ((cursor.pass kind text).terminal kind' text').leading = [] := by
  simp [Terminal.leading, terminal, pass, Context.tokenAfter, Context.token]

theorem terminals_skip (cursor : Cursor) {space : List Char}
    (hspace : ∀ c ∈ space, isSpace c = true) (rest : List Char) :
    cursor.terminals (space ++ rest) = (cursor.skip space hspace).terminals rest := by
  rw [terminals, terminals, skip, List.append_assoc]

/-- There are no more terminals at the end of a text. -/
theorem terminals_nil (cursor : Cursor) : cursor.terminals [] = [] := by
  rw [terminals, List.append_nil, scanFrom_blank cursor.isSpace_space]
  rfl

theorem terminals_token (cursor : Cursor) {kind : Kind} {c : Char} {body rest : List Char}
    (hkind : kind.isComment = false) (hc : isSpace c = false)
    (hextent : ∀ regexAllowed, extent regexAllowed c (body ++ rest) = (kind, body.length)) :
    cursor.terminals (c :: (body ++ rest)) =
      cursor.terminal kind (c :: body) :: (cursor.pass kind (c :: body)).terminals rest := by
  rw [terminals, scanFrom_token cursor.isSpace_space hc (hextent _), Terminal.ofTokens,
    Context.tokenAfter_kind, hkind]
  simp only [Bool.false_eq_true, if_false, attachAll, List.append_nil]
  rw [terminals, pass, List.nil_append]
  cases Terminal.ofTokens (scanFrom (cursor.context.after cursor.space kind (c :: body)) rest) <;> rfl

theorem attachAll_attach (comments : List Token) (comment : Token) (ts : List Terminal) :
    attachAll comments (Terminal.attach comment ts) = attachAll (comments ++ [comment]) ts := by
  cases ts with
  | nil => rfl
  | cons t rest => simp only [Terminal.attach, attachAll, List.append_assoc, List.singleton_append]

theorem terminals_comment (cursor : Cursor) {kind : Kind} {c : Char} {body rest : List Char}
    (hkind : kind.isComment = true) (hc : isSpace c = false)
    (hextent : ∀ regexAllowed, extent regexAllowed c (body ++ rest) = (kind, body.length)) :
    cursor.terminals (c :: (body ++ rest)) = (cursor.note kind (c :: body)).terminals rest := by
  rw [terminals, scanFrom_token cursor.isSpace_space hc (hextent _), Terminal.ofTokens,
    Context.tokenAfter_kind, hkind, if_pos rfl, attachAll_attach]
  rfl

/-! ## Names and signs -/

theorem isSpace_newline : ∀ c ∈ ['\n'], isSpace c = true :=
  List.forall_mem_singleton.2 rfl

theorem isSpace_blank : ∀ c ∈ [' '], isSpace c = true :=
  List.forall_mem_singleton.2 rfl

theorem isSpace_of_isWordStart {c : Char} (hc : isWordStart c = true) : isSpace c = false := by
  refine Bool.eq_false_iff.2 fun hspace => ?_
  simp only [isSpace, Bool.or_eq_true, beq_iff_eq] at hspace
  rcases hspace with (((rfl | rfl) | rfl) | rfl) | rfl <;> exact absurd hc (by decide)

/-- A name is a word to its end when no more of its characters follow. -/
theorem extent_identifier (name : Identifier) :
    ∃ c body, name.chars = c :: body ∧ isSpace c = false ∧
      ∀ (regexAllowed : Bool) {rest : List Char}, (∀ d ∈ rest.head?, isWordPart d = false) →
        extent regexAllowed c (body ++ rest) = (.word, body.length) := by
  have hname := name.isName_text
  rw [← Identifier.chars] at hname
  cases hchars : name.chars with
  | nil =>
    rw [hchars] at hname
    cases hname
  | cons c body =>
    rw [hchars, isName, Bool.and_eq_true] at hname
    obtain ⟨hc, hbody⟩ := hname
    refine ⟨c, body, rfl, isSpace_of_isWordStart hc, fun regexAllowed rest hrest => ?_⟩
    have hlength : wordLength (body ++ rest) = body.length := by
      rw [wordLength, List.takeWhile_append_of_pos (List.all_eq_true.1 hbody)]
      cases rest with
      | nil => simp
      | cons d rest => rw [List.takeWhile_cons_of_neg (by simp [hrest d rfl]), List.append_nil]
    rw [extent, if_pos hc, hlength]

theorem terminals_identifier (cursor : Cursor) (name : Identifier) {rest : List Char}
    (hrest : ∀ c ∈ rest.head?, isWordPart c = false) :
    cursor.terminals (name.chars ++ rest) =
      cursor.terminal .word name.chars :: (cursor.pass .word name.chars).terminals rest := by
  obtain ⟨c, body, hchars, hc, hextent⟩ := extent_identifier name
  rw [hchars]
  exact cursor.terminals_token rfl hc fun regexAllowed => hextent regexAllowed hrest

/-- The signs of one character that stand for themselves wherever they are. -/
def signs : List (Char × Kind) :=
  [('@', .atSign), ('#', .hash), (':', .colon), (';', .semicolon), ('(', .opening .paren),
    (')', .closing .paren), ('\x7b', .opening .brace), ('\x7d', .closing .brace)]

theorem terminals_sign (cursor : Cursor) (sign : Char × Kind) (hsign : sign ∈ signs)
    (rest : List Char) :
    cursor.terminals (sign.1 :: rest) =
      cursor.terminal sign.2 [sign.1] :: (cursor.pass sign.2 [sign.1]).terminals rest := by
  have hsigns : ∀ sign ∈ signs, sign.2.isComment = false ∧ isSpace sign.1 = false ∧
      sign ∈ symbols := by decide
  obtain ⟨hkind, hc, hsymbol⟩ := hsigns sign hsign
  exact @terminals_token cursor sign.2 sign.1 [] rest hkind hc fun regexAllowed =>
    extent_symbol hsymbol regexAllowed rest

end Cursor

end ComponentDocs
