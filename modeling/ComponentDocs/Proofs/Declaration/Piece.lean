import ComponentDocs.Proofs.Declaration.Cursor
import ComponentDocs.Proofs.Declaration.Terminal
import ComponentDocs.Proofs.Token.Edge

/-!
# Text put together from pieces

A printed text is a list of pieces, each of them blank space or the text of one token.  When no
token runs into the text behind it (`Piece.AllRead`), the text is read as its pieces: `Cursor.lay`
lists the terminals at a cursor without looking at characters, and `Cursor.terminals_printAll` says
that these are the terminals of the text.  Reading a printed text is then a matter of lists of
terminals.

A token with a fixed text never runs into what follows.  Words and numbers do, so behind them a text
has to stand that `Separates`.
-/

namespace ComponentDocs

open Text Token Literal

/-- A function that goes through a list item by item maps it. -/
theorem eq_map_of_cons {α β : Type} {f : List α → List β} {g : α → β} (hnil : f [] = [])
    (hcons : ∀ item items, f (item :: items) = g item :: f items) (items : List α) :
    f items = items.map g := by
  induction items with
  | nil => exact hnil
  | cons item items ih => rw [hcons, ih, List.map_cons]

/-! ## Tokens -/

namespace Bracket

def openingChar : Bracket → Char
  | .brace => '\x7b'
  | .paren => '('
  | .square => '['

def closingChar : Bracket → Char
  | .brace => '\x7d'
  | .paren => ')'
  | .square => ']'

theorem openingChar_mem_symbols (bracket : Bracket) :
    (bracket.openingChar, .opening bracket) ∈ symbols := by
  cases bracket <;> decide

theorem closingChar_mem_symbols (bracket : Bracket) :
    (bracket.closingChar, .closing bracket) ∈ symbols := by
  cases bracket <;> decide

end Bracket

/-- In front of `rest` the text is one token of this kind, wherever it stands. -/
def IsToken (kind : Kind) (text rest : List Char) : Prop :=
  kind.isComment = false ∧ ∃ c body, text = c :: body ∧ isSpace c = false ∧
    ∀ regexAllowed, extent regexAllowed c (body ++ rest) = (kind, body.length)

/-- No word or number goes on into this text. -/
def Separates (rest : List Char) : Prop :=
  ∀ c ∈ rest.head?, EndsNumber c

/-- The characters that stand behind words and numbers in printed texts. -/
def separators : List Char :=
  [' ', '\n', ',', ';', ':', '(', ')', '[', ']', '\x7b', '\x7d', '<', '>']

theorem separates_cons {c : Char} (hc : c ∈ separators) (rest : List Char) :
    Separates (c :: rest) := by
  have hends : separators.all (fun c => !isWordPart c && !(['.', '+', '-'].contains c)) = true := by
    decide
  have hc := List.all_eq_true.1 hends c hc
  simp only [Bool.and_eq_true, Bool.not_eq_true', List.contains_eq_mem, List.mem_cons,
    List.not_mem_nil, or_false, decide_eq_false_iff_not, not_or] at hc
  obtain ⟨hpart, hpoint, hplus, hminus⟩ := hc
  rintro _ ⟨⟩
  exact ⟨hpart, hpoint, not_or.2 ⟨hplus, hminus⟩⟩

theorem separates_nil : Separates [] :=
  nofun

theorem Bracket.separates_closingChar (bracket : Bracket) (rest : List Char) :
    Separates (bracket.closingChar :: rest) := by
  cases bracket <;> exact separates_cons (by decide) rest

theorem Separates.isWordPart {rest : List Char} (h : Separates rest) :
    ∀ c ∈ rest.head?, isWordPart c = false :=
  fun c hc => (h c hc).isWordPart

theorem isToken_word (name : Identifier) {rest : List Char}
    (hrest : ∀ c ∈ rest.head?, isWordPart c = false) : IsToken .word name.chars rest := by
  obtain ⟨c, body, hchars, hc, hextent⟩ := Cursor.extent_identifier name
  exact ⟨rfl, c, body, hchars, hc, fun regexAllowed => hextent regexAllowed hrest⟩

theorem isToken_symbol {c : Char} {kind : Kind} (hsymbol : (c, kind) ∈ symbols) (rest : List Char) :
    IsToken kind [c] rest := by
  have hsymbols : ∀ symbol ∈ symbols, symbol.2.isComment = false ∧ isSpace symbol.1 = false := by
    decide
  obtain ⟨hkind, hc⟩ := hsymbols _ hsymbol
  exact ⟨hkind, c, [], rfl, hc, fun regexAllowed => extent_symbol hsymbol regexAllowed _⟩

theorem isToken_arrow (rest : List Char) : IsToken .arrow ['=', '>'] rest :=
  ⟨rfl, '=', ['>'], rfl, rfl, fun _ => rfl⟩

theorem isToken_equals (rest : List Char) : IsToken .equals ['='] (' ' :: rest) :=
  ⟨rfl, '=', [], rfl, rfl, fun _ => rfl⟩

/-- A point in front of a name is no part of an ellipsis. -/
theorem isToken_dot (name : Identifier) (rest : List Char) :
    IsToken .dot ['.'] (name.chars ++ rest) := by
  refine ⟨rfl, '.', [], rfl, rfl, fun regexAllowed => ?_⟩
  have hdot : ∀ tail : List Char,
      extent regexAllowed '.' tail = markExtent ['.', '.'] .ellipsis .dot tail := fun _ => rfl
  have hname : ∃ c body, name.chars = c :: body ∧ '.' ≠ c := by
    cases hchars : name.chars with
    | nil =>
      have hname := name.isName_text
      rw [← Identifier.chars, hchars] at hname
      cases hname
    | cons c body =>
      refine ⟨c, body, rfl, ?_⟩
      rintro rfl
      have hpart := name.isWordPart_of_mem (hchars ▸ List.mem_cons_self)
      exact absurd hpart (by decide)
  obtain ⟨c, body, hchars, hne⟩ := hname
  rw [List.nil_append, hdot, hchars, List.cons_append, markExtent, List.isPrefixOf,
    beq_eq_false_iff_ne.2 hne]
  rfl

/-! ## Numbers -/

/-- A number of any form, as one token. -/
structure NumberText where
  first : Char
  others : List Char
  isAsciiDigit_first : isAsciiDigit first = true
  numberLength_others : numberLength first others = others.length

def NumberText.chars (number : NumberText) : List Char :=
  number.first :: number.others

theorem isWordStart_of_isAsciiDigit {c : Char} (hc : isAsciiDigit c = true) :
    isWordStart c = false := by
  refine Bool.eq_false_iff.2 fun hstart => ?_
  simp only [isWordStart, isAsciiLetter, Bool.or_eq_true, Bool.and_eq_true, decide_eq_true_eq,
    beq_iff_eq] at hstart
  simp only [isAsciiDigit, Bool.and_eq_true, decide_eq_true_eq] at hc
  rcases hstart with ((⟨hlow, -⟩ | ⟨hlow, -⟩) | rfl) | rfl
  · exact absurd (Char.le_trans hlow hc.2) (by decide)
  · exact absurd (Char.le_trans hlow hc.2) (by decide)
  · exact absurd hc.2 (by decide)
  · exact absurd hc.1 (by decide)

theorem extent_digit {c : Char} (hc : isAsciiDigit c = true) (regexAllowed : Bool)
    (rest : List Char) : extent regexAllowed c rest = (.number, numberLength c rest) := by
  rw [extent, if_neg (Bool.eq_false_iff.1 (isWordStart_of_isAsciiDigit hc)), if_pos hc]

theorem isToken_number (number : NumberText) {rest : List Char} (hrest : Separates rest) :
    IsToken .number number.chars rest := by
  have hpart : isWordPart number.first = true := by
    rw [isWordPart, number.isAsciiDigit_first, Bool.or_true]
  have hspace : isSpace number.first = false := by
    refine Bool.eq_false_iff.2 fun hspace => ?_
    exact absurd (isBlank_of_isSpace hspace) (Bool.eq_false_iff.1 (isBlank_of_isWordPart hpart))
  refine ⟨rfl, number.first, number.others, rfl, hspace, fun regexAllowed => ?_⟩
  rw [extent_digit number.isAsciiDigit_first]
  cases rest with
  | nil => rw [List.append_nil, number.numberLength_others]
  | cons c rest => rw [numberLength_append_stop (hrest c rfl), number.numberLength_others]

/-! ## Quoted text -/

inductive Quote where
  | single
  | double
  | backtick
  deriving DecidableEq

namespace Quote

def mark : Quote → Char
  | single => '\x27'
  | double => '"'
  | backtick => '\x60'

def kind : Quote → Kind
  | single | double => .string
  | backtick => .template

def isMultiline : Quote → Bool
  | single | double => false
  | backtick => true

theorem mem_quotes (quote : Quote) : (quote.mark, quote.isMultiline, quote.kind) ∈ quotes := by
  cases quote <;> decide

end Quote

/-- What may stand between two `quote` characters on one line: other characters, and any character
but a line feed behind a backslash. -/
inductive QuotedBody (quote : Char) : List Char → Prop
  | nil : QuotedBody quote []
  | plain {c : Char} {body : List Char} (hc : c ≠ quote ∧ c ≠ '\\' ∧ c ≠ '\n')
      (hbody : QuotedBody quote body) : QuotedBody quote (c :: body)
  | escape {c : Char} {body : List Char} (hc : c ≠ '\n') (hbody : QuotedBody quote body) :
      QuotedBody quote ('\\' :: c :: body)

theorem QuotedBody.append {quote : Char} {body more : List Char} (h : QuotedBody quote body)
    (hmore : QuotedBody quote more) : QuotedBody quote (body ++ more) := by
  induction h with
  | nil => exact hmore
  | plain hc _ ih => exact .plain hc ih
  | escape hc _ ih => exact .escape hc ih

theorem QuotedBody.quotedLength_eq {quote : Char} (hquote : quote ≠ '\\') {body : List Char}
    (h : QuotedBody quote body) (multiline : Bool) (rest : List Char) :
    quotedLength quote multiline (body ++ quote :: rest) = (true, body.length + 1) := by
  induction h with
  | nil =>
    rw [List.nil_append, quotedLength.eq_def]
    dsimp only
    rw [if_pos rfl]
    rfl
  | @plain c body hc _ ih =>
    obtain ⟨hend, hescape, hline⟩ := hc
    rw [List.cons_append, quotedLength.eq_def]
    dsimp only
    rw [if_neg hend, if_neg hescape, if_neg fun h => hline h.1, ih]
    rfl
  | @escape c body hc _ ih =>
    rw [List.cons_append, List.cons_append, quotedLength.eq_def]
    dsimp only
    rw [if_neg (Ne.symm hquote), if_pos rfl, if_neg hc, ih]
    rfl

/-- A literal on one line. -/
structure QuotedLiteral where
  quote : Quote
  body : List Char
  quotedBody : QuotedBody quote.mark body

def QuotedLiteral.chars (literal : QuotedLiteral) : List Char :=
  literal.quote.mark :: (literal.body ++ [literal.quote.mark])

theorem isToken_quoted (literal : QuotedLiteral) (rest : List Char) :
    IsToken literal.quote.kind literal.chars rest := by
  have hquotes : ∀ quote : Quote,
      quote.mark ≠ '\\' ∧ quote.kind.isComment = false ∧ isSpace quote.mark = false := by
    intro quote
    cases quote <;> decide
  obtain ⟨hescape, hkind, hspace⟩ := hquotes literal.quote
  refine ⟨hkind, _, _, rfl, hspace, fun regexAllowed => ?_⟩
  rw [extent_quote literal.quote.mem_quotes, quotedExtent, List.append_assoc,
    List.singleton_append, literal.quotedBody.quotedLength_eq hescape, List.length_append]
  rfl

/-! ## Pieces -/

/-- A piece of a printed text. -/
inductive Piece where
  | blank (space : List Char) (hspace : ∀ c ∈ space, isSpace c = true)
  | token (kind : Kind) (text : List Char)

namespace Piece

def chars : Piece → List Char
  | blank space _ => space
  | token _ text => text

def space : Piece :=
  .blank [' '] Cursor.isSpace_blank

def lineFeed : Piece :=
  .blank ['\n'] Cursor.isSpace_newline

def word (name : Identifier) : Piece :=
  .token .word name.chars

/-- The text of some pieces. -/
def printAll (pieces : List Piece) : List Char :=
  pieces.flatMap chars

@[simp] theorem printAll_nil : printAll [] = [] :=
  rfl

@[simp] theorem printAll_cons (piece : Piece) (pieces : List Piece) :
    printAll (piece :: pieces) = piece.chars ++ printAll pieces :=
  List.flatMap_cons

@[simp] theorem printAll_append (pieces more : List Piece) :
    printAll (pieces ++ more) = printAll pieces ++ printAll more :=
  List.flatMap_append

/-- In front of `rest` every token piece is read as the token that it is. -/
def AllRead : List Piece → List Char → Prop
  | [], _ => True
  | .blank _ _ :: pieces, rest => AllRead pieces rest
  | .token kind text :: pieces, rest =>
    IsToken kind text (printAll pieces ++ rest) ∧ AllRead pieces rest

theorem allRead_append {pieces more : List Piece} {rest : List Char} :
    AllRead (pieces ++ more) rest ↔ AllRead pieces (printAll more ++ rest) ∧ AllRead more rest := by
  induction pieces with
  | nil => exact ⟨fun h => ⟨trivial, h⟩, fun h => h.2⟩
  | cons piece pieces ih =>
    cases piece with
    | blank space hspace => exact ih
    | token kind text =>
      rw [List.cons_append, AllRead, AllRead, printAll_append, List.append_assoc, ih, and_assoc]

/-- Each piece is read as what it is in front of a text that separates. -/
def Readable (pieces : List Piece) : Prop :=
  ∀ rest, Separates rest → AllRead pieces rest

theorem readable_nil : Readable [] :=
  fun _ _ => trivial

theorem readable_word (name : Identifier) : Readable [.word name] :=
  fun _ hrest => ⟨isToken_word name hrest.isWordPart, trivial⟩

def quoted (literal : QuotedLiteral) : Piece :=
  .token literal.quote.kind literal.chars

theorem readable_quoted (literal : QuotedLiteral) : Readable [.quoted literal] :=
  fun _ _ => ⟨isToken_quoted literal _, trivial⟩

def number (number : NumberText) : Piece :=
  .token .number number.chars

theorem readable_number (number : NumberText) : Readable [.number number] :=
  fun _ hrest => ⟨isToken_number number hrest, trivial⟩

/-! ## Lists and brackets -/

def comma : Piece :=
  .token .comma [',']

def colon : Piece :=
  .token .colon [':']

def semicolon : Piece :=
  .token .semicolon [';']

/-- Items with a comma and a space between them. -/
def commaList (items : List (List Piece)) : List Piece :=
  [comma, space].intercalate items

@[simp] theorem commaList_nil : commaList [] = [] :=
  rfl

@[simp] theorem commaList_singleton (item : List Piece) : commaList [item] = item :=
  List.intercalate_singleton

theorem commaList_cons_cons (item other : List Piece) (others : List (List Piece)) :
    commaList (item :: other :: others) =
      item ++ comma :: space :: commaList (other :: others) := by
  rw [commaList, List.intercalate_cons_cons, List.append_assoc]
  rfl

def bracketed (bracket : Bracket) (pieces : List Piece) : List Piece :=
  .token (.opening bracket) [bracket.openingChar] ::
    (pieces ++ [.token (.closing bracket) [bracket.closingChar]])

theorem readable_intercalate {separator : List Piece} (hread : ∀ rest, AllRead separator rest)
    (hseparates : ∀ rest, Separates (printAll separator ++ rest)) {items : List (List Piece)}
    (hitems : ∀ item ∈ items, Readable item) : Readable (separator.intercalate items) := by
  induction items with
  | nil => exact fun _ _ => trivial
  | cons item items ih =>
    obtain ⟨hitem, hothers⟩ := List.forall_mem_cons.1 hitems
    cases items with
    | nil =>
      rw [List.intercalate_singleton]
      exact hitem
    | cons other others =>
      intro rest hrest
      rw [List.intercalate_cons_cons, allRead_append, allRead_append]
      refine ⟨⟨hitem _ ?_, hread _⟩, ih hothers rest hrest⟩
      exact hseparates _

theorem readable_commaList {items : List (List Piece)} (hitems : ∀ item ∈ items, Readable item) :
    Readable (commaList items) := by
  refine readable_intercalate (fun _ => ?_) (fun _ => ?_) hitems
  · exact ⟨isToken_symbol (by decide) _, trivial⟩
  · exact separates_cons (by decide) _

theorem readable_bracketed (bracket : Bracket) {pieces : List Piece} (hpieces : Readable pieces) :
    Readable (bracketed bracket pieces) := by
  intro rest _
  refine ⟨isToken_symbol bracket.openingChar_mem_symbols _, ?_⟩
  rw [allRead_append]
  refine ⟨hpieces _ (bracket.separates_closingChar rest), ?_, trivial⟩
  exact isToken_symbol bracket.closingChar_mem_symbols _

/-! ## Kinds and ends -/

def kind? : Piece → Option Kind
  | blank _ _ => none
  | token kind _ => some kind

/-- The kinds of the tokens. -/
def kinds (pieces : List Piece) : List Kind :=
  pieces.filterMap kind?

@[simp] theorem kinds_blank (space : List Char) (hspace : ∀ c ∈ space, isSpace c = true)
    (pieces : List Piece) : kinds (.blank space hspace :: pieces) = kinds pieces :=
  rfl

@[simp] theorem kinds_token (kind : Kind) (text : List Char) (pieces : List Piece) :
    kinds (.token kind text :: pieces) = kind :: kinds pieces :=
  rfl

@[simp] theorem kinds_append (pieces more : List Piece) :
    kinds (pieces ++ more) = kinds pieces ++ kinds more :=
  List.filterMap_append

/-- What holds for items and for what separates them holds for the list. -/
theorem kinds_intercalate {motive : List Kind → Prop} (nil : motive [])
    (append : ∀ {kinds others}, motive kinds → motive others → motive (kinds ++ others))
    {separator : List Piece} (hseparator : motive (kinds separator)) {items : List (List Piece)}
    (hitems : ∀ item ∈ items, motive (kinds item)) :
    motive (kinds (separator.intercalate items)) := by
  induction items with
  | nil => exact nil
  | cons item items ih =>
    obtain ⟨hitem, hothers⟩ := List.forall_mem_cons.1 hitems
    cases items with
    | nil =>
      rw [List.intercalate_singleton]
      exact hitem
    | cons other others =>
      rw [List.intercalate_cons_cons, kinds_append, kinds_append]
      exact append (append hitem hseparator) (ih hothers)

/-- The last piece is a token after which a text may end. -/
def EndsSolid (pieces : List Piece) : Prop :=
  ∃ before kind text, pieces = before ++ [.token kind text] ∧ kind.isSolid = true

theorem EndsSolid.append {more : List Piece} (h : EndsSolid more) (pieces : List Piece) :
    EndsSolid (pieces ++ more) := by
  obtain ⟨before, kind, text, rfl, hkind⟩ := h
  exact ⟨pieces ++ before, kind, text, (List.append_assoc ..).symm, hkind⟩

theorem EndsSolid.cons {pieces : List Piece} (h : EndsSolid pieces) (piece : Piece) :
    EndsSolid (piece :: pieces) :=
  h.append [piece]

theorem endsSolid_token {kind : Kind} (hkind : kind.isSolid = true) (text : List Char) :
    EndsSolid [.token kind text] :=
  ⟨[], kind, text, rfl, hkind⟩

theorem endsSolid_bracketed (bracket : Bracket) (pieces : List Piece) :
    EndsSolid (bracketed bracket pieces) :=
  ((endsSolid_token rfl _).append pieces).cons _

/-- A text that begins and ends with tokens has no blank space at its ends. -/
theorem trim_printAll {kind : Kind} (hkind : kind ≠ .error) {text : List Char}
    {pieces : List Piece} {rest : List Char} (hread : AllRead (.token kind text :: pieces) rest)
    (hends : EndsSolid (.token kind text :: pieces)) :
    trim (printAll (.token kind text :: pieces)) = printAll (.token kind text :: pieces) := by
  refine trim_eq_self_of_ends ?_ ?_
  · obtain ⟨⟨-, c, body, rfl, -, hextent⟩, -⟩ := hread
    rintro _ ⟨⟩
    exact extent_first (hextent false) hkind
  · obtain ⟨before, last, lastText, heq, hlast⟩ := hends
    rw [heq] at hread ⊢
    obtain ⟨-, ⟨-, c, body, rfl, -, hextent⟩, -⟩ := allRead_append.1 hread
    obtain ⟨d, hd, hblank, -⟩ := endsSolid_of_extent (hextent false) hlast
    intro e he
    rw [printAll_append, printAll_cons, printAll_nil, List.append_nil, chars, List.getLast?_append,
      hd] at he
    cases he
    exact hblank

end Piece

/-! ## Terminals of pieces -/

namespace Cursor

open Piece

/-- The terminals of pieces that stand at the cursor. -/
def lay (cursor : Cursor) : List Piece → List Terminal
  | [] => []
  | .blank space hspace :: pieces => (cursor.skip space hspace).lay pieces
  | .token kind text :: pieces => cursor.terminal kind text :: (cursor.pass kind text).lay pieces

/-- The cursor after pieces. -/
def passAll (cursor : Cursor) : List Piece → Cursor
  | [] => cursor
  | .blank space hspace :: pieces => (cursor.skip space hspace).passAll pieces
  | .token kind text :: pieces => (cursor.pass kind text).passAll pieces

theorem lay_append (cursor : Cursor) (pieces more : List Piece) :
    cursor.lay (pieces ++ more) = cursor.lay pieces ++ (cursor.passAll pieces).lay more := by
  induction pieces generalizing cursor with
  | nil => rfl
  | cons piece pieces ih =>
    cases piece with
    | blank space hspace => exact ih _
    | token kind text => exact congrArg _ (ih _)

theorem passAll_append (cursor : Cursor) (pieces more : List Piece) :
    cursor.passAll (pieces ++ more) = (cursor.passAll pieces).passAll more := by
  induction pieces generalizing cursor with
  | nil => rfl
  | cons piece pieces ih =>
    cases piece with
    | blank space hspace => exact ih _
    | token kind text => exact ih _

theorem lay_bracketed (cursor : Cursor) (bracket : Bracket) (pieces : List Piece) :
    cursor.lay (bracketed bracket pieces) =
      cursor.terminal (.opening bracket) [bracket.openingChar] ::
        ((cursor.pass (.opening bracket) [bracket.openingChar]).lay pieces ++
          [((cursor.pass (.opening bracket) [bracket.openingChar]).passAll pieces).terminal
            (.closing bracket) [bracket.closingChar]]) := by
  rw [bracketed, lay, lay_append]
  rfl

theorem terminals_printAll (cursor : Cursor) {pieces : List Piece} {rest : List Char}
    (h : AllRead pieces rest) :
    cursor.terminals (printAll pieces ++ rest) =
      cursor.lay pieces ++ (cursor.passAll pieces).terminals rest := by
  induction pieces generalizing cursor with
  | nil => rfl
  | cons piece pieces ih =>
    rw [printAll_cons, List.append_assoc]
    cases piece with
    | blank space hspace =>
      rw [chars, terminals_skip cursor hspace]
      exact ih _ h
    | token kind text =>
      obtain ⟨⟨hkind, c, body, rfl, hc, hextent⟩, hpieces⟩ := h
      rw [chars, List.cons_append, terminals_token cursor hkind hc hextent, ih _ hpieces]
      rfl

theorem map_kind_lay (cursor : Cursor) (pieces : List Piece) :
    (cursor.lay pieces).map Terminal.kind = kinds pieces := by
  induction pieces generalizing cursor with
  | nil => rfl
  | cons piece pieces ih =>
    cases piece with
    | blank space hspace => exact ih _
    | token kind text => exact congrArg _ (ih _)

/-- No line ends behind a token. -/
theorem newline_passAll {pieces : List Piece} (hends : EndsSolid pieces) (cursor : Cursor) :
    (cursor.passAll pieces).newline = false := by
  obtain ⟨before, kind, text, rfl, hkind⟩ := hends
  have hcomment : kind.isComment = false := by
    cases kind <;> first | rfl | cases hkind
  rw [passAll_append]
  exact newline_pass _ hcomment text

theorem comments_passAll {cursor : Cursor} (hcomments : cursor.comments = [])
    (pieces : List Piece) : (cursor.passAll pieces).comments = [] := by
  induction pieces generalizing cursor with
  | nil => exact hcomments
  | cons piece pieces ih =>
    cases piece with
    | blank space hspace => exact @ih (cursor.skip space hspace) hcomments
    | token kind text => exact @ih (cursor.pass kind text) rfl

/-- No character is lost. -/
theorem flatMap_lay {cursor : Cursor} (hcomments : cursor.comments = []) (pieces : List Piece) :
    (cursor.lay pieces).flatMap (fun t => t.leading ++ t.text.toList) ++
        (cursor.passAll pieces).space =
      cursor.space ++ printAll pieces := by
  induction pieces generalizing cursor with
  | nil => rw [lay, passAll, List.flatMap_nil, printAll_nil, List.append_nil, List.nil_append]
  | cons piece pieces ih =>
    rw [printAll_cons, ← List.append_assoc]
    cases piece with
    | blank space hspace => exact @ih (cursor.skip space hspace) hcomments
    | token kind text =>
      have hleading : (cursor.terminal kind text).leading = cursor.space := by
        rw [Terminal.leading, terminal, hcomments]
        exact String.toList_ofList
      rw [lay, passAll, List.flatMap_cons, List.append_assoc, @ih (cursor.pass kind text) rfl,
        hleading, text_terminal, String.toList_ofList, chars]
      rfl

/-- The text of pieces is captured as it was printed. -/
theorem capture_lay (cursor : Cursor) (kind : Kind) (text : List Char) (pieces : List Piece)
    (more : List Terminal) :
    Terminal.capture (cursor.lay (.token kind text :: pieces) ++ more) more =
      String.ofList (trim (printAll (.token kind text :: pieces))) := by
  let next := cursor.pass kind text
  have hblank : ∀ c ∈ (next.passAll pieces).space, isBlank c = true := fun c hc =>
    isBlank_of_isSpace ((next.passAll pieces).isSpace_space c hc)
  have hspelling : Terminal.spelling (cursor.lay (.token kind text :: pieces)) ++
      (next.passAll pieces).space = printAll (.token kind text :: pieces) := by
    rw [lay, Terminal.spelling, text_terminal, String.toList_ofList, List.append_assoc]
    exact congrArg _ (@flatMap_lay next rfl pieces)
  rw [Terminal.capture_left, ← trim_append_blank hblank, hspelling]

end Cursor

end ComponentDocs
