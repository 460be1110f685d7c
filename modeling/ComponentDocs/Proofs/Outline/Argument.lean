import ComponentDocs.Proofs.Captured
import ComponentDocs.Proofs.Declaration.Argument
import ComponentDocs.Proofs.Declaration.Piece

/-!
# Arguments of decorators as printed

The outline of an argument is a literal, a name, an array or an object, and says of each string in
which quotes it is written.  `ArgumentOutline.pieces` is its text and `ArgumentOutline.expr` the
value it stands for.  The arguments of a decorator are read as what was printed, whatever the
strings in them contain: `SourceFile.parse_arguments`.
-/

namespace ComponentDocs

open Text Token Terminal Declaration

/-! ## Quotes -/

namespace Quote

/-- How a character is written between quotes. -/
def escapeChar (quote : Quote) (c : Char) : List Char :=
  if c = '\n' then ['\\', 'n'] else if c = '\\' ∨ c = quote.mark then ['\\', c] else [c]

def escape (quote : Quote) (cs : List Char) : List Char :=
  cs.flatMap quote.escapeChar

variable (quote : Quote)

theorem escape_cons (c : Char) (cs : List Char) :
    quote.escape (c :: cs) = quote.escapeChar c ++ quote.escape cs :=
  List.flatMap_cons

theorem quotedBody_escape (cs : List Char) : QuotedBody quote.mark (quote.escape cs) := by
  induction cs with
  | nil => exact .nil
  | cons c cs ih =>
    rw [escape_cons]
    refine QuotedBody.append ?_ ih
    rw [escapeChar]
    split
    · exact .escape (by decide) .nil
    · rename_i hline
      split
      · exact .escape hline .nil
      · rename_i hplain
        exact .plain ⟨fun h => hplain (.inr h), fun h => hplain (.inl h), hline⟩ .nil

theorem unescape_escape (cs : List Char) : unescape (quote.escape cs) = cs := by
  induction cs with
  | nil => rfl
  | cons c cs ih =>
    have hself : c = '\\' ∨ c = quote.mark → unescapeChar c = c := by
      rintro (rfl | rfl)
      · decide
      · cases quote <;> decide
    rw [escape_cons, escapeChar]
    split
    · rename_i hline
      rw [List.cons_append, List.cons_append, List.nil_append, unescape, if_pos rfl, ih, hline]
      rfl
    · split
      · rename_i hescaped
        rw [List.cons_append, List.cons_append, List.nil_append, unescape, if_pos rfl, ih,
          hself hescaped]
      · rename_i hplain
        rw [List.singleton_append, unescape.eq_def]
        dsimp only
        rw [if_neg fun h => hplain (.inl h), ih]

theorem mark_ne_brace : quote.mark ≠ '\x7b' := by
  cases quote <;> decide

theorem mark_ne_dollar : quote.mark ≠ '$' := by
  cases quote <;> decide

theorem head?_escapeChar (c : Char) (rest : List Char) :
    (quote.escapeChar c ++ rest).head? = some c ∨
      (quote.escapeChar c ++ rest).head? = some '\\' := by
  rw [escapeChar]
  split
  · exact .inr rfl
  · split
    · exact .inr rfl
    · exact .inl rfl

/-- A brace in front of a text in quotes was there before it was escaped. -/
theorem head?_eq_brace {cs : List Char}
    (h : (quote.escape cs ++ [quote.mark]).head? = some '\x7b') : cs.head? = some '\x7b' := by
  cases cs with
  | nil => exact absurd (Option.some.inj h) quote.mark_ne_brace
  | cons c cs =>
    rw [escape_cons, List.append_assoc] at h
    rcases quote.head?_escapeChar c (quote.escape cs ++ [quote.mark]) with hhead | hhead
    · exact hhead.symm.trans h
    · exact absurd (hhead.symm.trans h) (by decide)

theorem hasSubstitution_cons_of_ne {c : Char} (hc : c ≠ '$') (cs : List Char) :
    hasSubstitution (c :: cs) = hasSubstitution cs := by
  rw [hasSubstitution, beq_eq_false_iff_ne.2 hc, Bool.false_and, Bool.false_or]

/-- Escaping brings no dollar sign and brace together. -/
theorem infix_of_hasSubstitution {cs : List Char}
    (h : hasSubstitution (quote.escape cs ++ [quote.mark]) = true) : ['$', '\x7b'] <:+: cs := by
  induction cs with
  | nil =>
    rw [escape, List.flatMap_nil, List.nil_append, hasSubstitution_cons_of_ne quote.mark_ne_dollar]
      at h
    cases h
  | cons c cs ih =>
    rw [escape_cons, List.append_assoc, escapeChar] at h
    split at h
    · rw [List.cons_append, List.cons_append, List.nil_append,
        hasSubstitution_cons_of_ne (by decide), hasSubstitution_cons_of_ne (by decide)] at h
      exact (ih h).trans (List.suffix_cons c cs).isInfix
    · split at h
      · rename_i hescaped
        have hc : c ≠ '$' := by
          rcases hescaped with rfl | rfl
          · decide
          · exact quote.mark_ne_dollar
        rw [List.cons_append, List.cons_append, List.nil_append,
          hasSubstitution_cons_of_ne (by decide), hasSubstitution_cons_of_ne hc] at h
        exact (ih h).trans (List.suffix_cons c cs).isInfix
      · rw [List.singleton_append, hasSubstitution, Bool.or_eq_true, Bool.and_eq_true, beq_iff_eq,
          beq_iff_eq] at h
        rcases h with ⟨rfl, hbrace⟩ | h
        · obtain ⟨others, rfl⟩ := List.head?_eq_some_iff.1 (quote.head?_eq_brace hbrace)
          exact ⟨[], others, rfl⟩
        · exact (ih h).trans (List.suffix_cons c cs).isInfix

end Quote

/-- A text between quotes.  Between backticks a dollar sign in front of a brace would begin a
computed part. -/
structure QuotedText where
  quote : Quote
  value : String
  not_computed : quote = .backtick → ¬['$', '\x7b'] <:+: value.toList

namespace QuotedText

variable (literal : QuotedText)

/-- The literal as it is written. -/
def written : QuotedLiteral :=
  ⟨literal.quote, literal.quote.escape literal.value.toList, literal.quote.quotedBody_escape _⟩

theorem unquote_written : unquote (String.ofList literal.written.chars) = literal.value := by
  rw [unquote, String.toList_ofList, QuotedLiteral.chars, List.tail_cons, List.dropLast_concat,
    written, Quote.unescape_escape, String.ofList_toList]

theorem hasSubstitution_written (hquote : literal.quote = .backtick) :
    hasSubstitution literal.written.chars = false := by
  refine Bool.eq_false_iff.2 fun h => literal.not_computed hquote ?_
  rw [QuotedLiteral.chars, Quote.hasSubstitution_cons_of_ne (Quote.mark_ne_dollar _)] at h
  exact literal.quote.infix_of_hasSubstitution h

end QuotedText

/-- The key of an object entry. -/
structure KeyText extends QuotedText where
  quote_ne : quote ≠ .backtick

/-! ## Outlines -/

inductive ArgumentOutline where
  | string (literal : QuotedText)
  | name (identifier : Identifier)
  | array (items : List ArgumentOutline)
  | object (entries : List (KeyText × ArgumentOutline))

namespace ArgumentOutline

open Piece

/-- What holds for an argument when it holds for its parts holds for all arguments. -/
theorem induct {motive : ArgumentOutline → Prop} (string : ∀ literal, motive (.string literal))
    (name : ∀ identifier, motive (.name identifier))
    (array : ∀ items, (∀ item ∈ items, motive item) → motive (.array items))
    (object : ∀ entries, (∀ entry ∈ entries, motive entry.2) → motive (.object entries))
    (argument : ArgumentOutline) : motive argument :=
  @ArgumentOutline.rec motive (fun items => ∀ item ∈ items, motive item)
    (fun entries => ∀ entry ∈ entries, motive entry.2) (fun entry => motive entry.2) string name
    array object nofun (fun _ _ hitem hitems => List.forall_mem_cons.2 ⟨hitem, hitems⟩) nofun
    (fun _ _ hentry hentries => List.forall_mem_cons.2 ⟨hentry, hentries⟩)
    (fun _ _ hvalue => hvalue) argument

mutual

/-- The printed form. -/
def pieces : ArgumentOutline → List Piece
  | .string literal => [.quoted literal.written]
  | .name identifier => [.word identifier]
  | .array items => bracketed .square (commaList (itemPieces items))
  | .object entries => bracketed .brace (commaList (entryPieces entries))

def itemPieces : List ArgumentOutline → List (List Piece)
  | [] => []
  | item :: items => item.pieces :: itemPieces items

def entryPieces : List (KeyText × ArgumentOutline) → List (List Piece)
  | [] => []
  | (key, value) :: entries =>
    (.quoted key.written :: colon :: space :: value.pieces) :: entryPieces entries

end

mutual

/-- The value that the argument stands for. -/
def expr : ArgumentOutline → Expr
  | .string literal => .string literal.value
  | .name identifier => .name identifier.text
  | .array items => .array (itemExprs items)
  | .object entries => .object (entryExprs entries)

def itemExprs : List ArgumentOutline → List Expr
  | [] => []
  | item :: items => item.expr :: itemExprs items

def entryExprs : List (KeyText × ArgumentOutline) → List (String × Expr)
  | [] => []
  | (key, value) :: entries => (key.value, value.expr) :: entryExprs entries

end

def piecesOfEntry (entry : KeyText × ArgumentOutline) : List Piece :=
  .quoted entry.1.written :: colon :: space :: entry.2.pieces

def exprOfEntry (entry : KeyText × ArgumentOutline) : String × Expr :=
  (entry.1.value, entry.2.expr)

theorem itemPieces_eq (items : List ArgumentOutline) : itemPieces items = items.map pieces :=
  eq_map_of_cons rfl (fun _ _ => rfl) items

theorem entryPieces_eq (entries : List (KeyText × ArgumentOutline)) :
    entryPieces entries = entries.map piecesOfEntry :=
  eq_map_of_cons rfl (fun _ _ => rfl) entries

theorem itemExprs_eq (items : List ArgumentOutline) : itemExprs items = items.map expr :=
  eq_map_of_cons rfl (fun _ _ => rfl) items

theorem entryExprs_eq (entries : List (KeyText × ArgumentOutline)) :
    entryExprs entries = entries.map exprOfEntry :=
  eq_map_of_cons rfl (fun _ _ => rfl) entries

theorem readable_pieces (argument : ArgumentOutline) : Readable argument.pieces := by
  induction argument using induct with
  | string literal => exact readable_quoted literal.written
  | name identifier => exact readable_word identifier
  | array items ih =>
    rw [pieces, itemPieces_eq]
    exact readable_bracketed .square (readable_commaList (List.forall_mem_map.2 ih))
  | object entries ih =>
    rw [pieces, entryPieces_eq]
    refine readable_bracketed .brace (readable_commaList (List.forall_mem_map.2 ?_))
    intro entry hentry rest hrest
    exact ⟨isToken_quoted _ _, isToken_symbol (by decide) _, ih entry hentry rest hrest⟩

/-- An argument begins with a token that ends no list and spreads nothing. -/
theorem exists_pieces (argument : ArgumentOutline) :
    ∃ kind text others, argument.pieces = .token kind text :: others ∧ kind.isClosing = false ∧
      kind ≠ .ellipsis := by
  cases argument with
  | string literal =>
    refine ⟨literal.quote.kind, literal.written.chars, [], rfl, ?_⟩
    cases literal.quote <;> decide
  | name identifier => exact ⟨_, _, _, rfl, rfl, by decide⟩
  | array items => exact ⟨_, _, _, rfl, rfl, by decide⟩
  | object entries => exact ⟨_, _, _, rfl, rfl, by decide⟩

end ArgumentOutline

namespace Piece

/-- A decorator with these arguments. -/
def decoratorPieces (name : Identifier) (arguments : List ArgumentOutline) : List Piece :=
  .token .atSign ['@'] :: .word name ::
    bracketed .paren (commaList (arguments.map ArgumentOutline.pieces))

theorem printAll_decoratorPieces (name : Identifier) (arguments : List ArgumentOutline) :
    printAll (decoratorPieces name arguments) =
      '@' :: (name.chars ++ '(' :: printAll (commaList (arguments.map ArgumentOutline.pieces))) ++
        [')'] := by
  rw [decoratorPieces, printAll_cons, printAll_cons, bracketed, printAll_cons, printAll_append,
    List.cons_append, List.append_assoc]
  rfl

theorem allRead_decoratorPieces (name : Identifier) (arguments : List ArgumentOutline)
    {rest : List Char} (hrest : Separates rest) :
    AllRead (decoratorPieces name arguments) rest := by
  have harguments : Readable (commaList (arguments.map ArgumentOutline.pieces)) :=
    readable_commaList (List.forall_mem_map.2 fun argument _ => argument.readable_pieces)
  refine ⟨isToken_symbol (by decide) _, isToken_word name ?_,
    readable_bracketed .paren harguments rest hrest⟩
  exact (@separates_cons '(' (by decide) _).isWordPart

end Piece

/-! ## Reading -/

namespace Cursor

open Piece ArgumentOutline

/-- Wherever these pieces stand as an item of a list, they are read as this value. -/
structure ReadsAs {α : Type} (parse : List Terminal → Except Fault (Option α × List Terminal))
    (pieces : List Piece) (value : α) : Prop where
  begins : ∃ kind text others, pieces = .token kind text :: others ∧ kind.isClosing = false
  parse_eq : ∀ (cursor : Cursor) {more : List Terminal}, atItemEnd more = true →
    parse (cursor.lay pieces ++ more) = .ok (some value, more)

theorem atItemEnd_comma (cursor : Cursor) (more : List Terminal) :
    atItemEnd (cursor.terminal .comma [','] :: more) = true :=
  rfl

theorem atItemEnd_closing {bracket : Bracket} {closer : Terminal}
    (hcloser : closer.kind = .closing bracket) (more : List Terminal) :
    atItemEnd (closer :: more) = true := by
  rw [atItemEnd, endsItem, hcloser]
  rfl

/-- A list in brackets is read item by item. -/
theorem parse_commaList {α ι : Type} {bracket : Bracket}
    {parseOne : List Terminal → Except Fault (Option α × List Terminal)}
    {parseAll : List Terminal → Except Fault (List α × List Terminal)}
    (hall : ∀ t rest, parseAll (t :: rest) =
      if t.kind = .closing bracket then .ok ([], rest)
      else parseOne (t :: rest) >>= fun (item, after) => parseMore bracket parseAll item after)
    {pieces : ι → List Piece} {value : ι → α} {items : List ι}
    (hitems : ∀ item ∈ items, ReadsAs parseOne (pieces item) (value item)) (cursor : Cursor)
    {closer : Terminal} (hcloser : closer.kind = .closing bracket) (more : List Terminal) :
    parseAll (cursor.lay (commaList (items.map pieces)) ++ closer :: more) =
      .ok (items.map value, more) := by
  induction items generalizing cursor with
  | nil =>
    rw [List.map_nil, commaList_nil, lay, List.nil_append, hall, if_pos hcloser]
    rfl
  | cons item items ih =>
    obtain ⟨hitem, hothers⟩ := List.forall_mem_cons.1 hitems
    have hone : ∀ after, atItemEnd after = true →
        parseAll (cursor.lay (pieces item) ++ after) =
          parseMore bracket parseAll (some (value item)) after := by
      intro after hafter
      obtain ⟨kind, text, others, hpieces, hkind⟩ := hitem.begins
      have hparse := hitem.parse_eq cursor hafter
      rw [hpieces, lay, List.cons_append] at hparse ⊢
      have hopen : kind ≠ .closing bracket := by
        rintro rfl
        cases hkind
      rw [hall, kind_terminal, if_neg hopen, hparse, ok_bind]
    have hclosing := atItemEnd_closing hcloser more
    cases items with
    | nil =>
      have hcomma : closer.kind ≠ .comma := by
        rw [hcloser]
        exact Kind.noConfusion
      rw [List.map_singleton, commaList_singleton, hone _ hclosing, parseMore, if_neg hcomma,
        if_pos hcloser]
      rfl
    | cons other others =>
      rw [List.map_cons, List.map_cons, commaList_cons_cons, ← List.map_cons, lay_append,
        List.append_assoc, comma, Piece.space, lay, lay, List.cons_append,
        hone _ (atItemEnd_comma _ _), parseMore, kind_terminal, if_pos rfl, ih hothers, ok_bind]
      rfl

theorem readsAs_item {bracket : Bracket} {argument : ArgumentOutline}
    (hargument : ∀ (cursor : Cursor) {more : List Terminal}, atItemEnd more = true →
      parseExpr (cursor.lay argument.pieces ++ more) = .ok (argument.expr, more)) :
    ReadsAs (parseItem bracket) argument.pieces argument.expr := by
  obtain ⟨kind, text, others, hpieces, hclosing, hellipsis⟩ := argument.exists_pieces
  refine ⟨⟨kind, text, others, hpieces, hclosing⟩, fun cursor more hmore => ?_⟩
  have hspread : ¬(bracket = .square ∧
      startsWith .ellipsis (cursor.lay argument.pieces ++ more) = true) := by
    rw [hpieces, lay, List.cons_append, startsWith, kind_terminal, beq_iff_eq]
    exact fun h => hellipsis h.2
  rw [parseItem_eq, if_neg hspread, hargument cursor hmore]
  rfl

theorem readsAs_entry {entry : KeyText × ArgumentOutline}
    (hvalue : ∀ (cursor : Cursor) {more : List Terminal}, atItemEnd more = true →
      parseExpr (cursor.lay entry.2.pieces ++ more) = .ok (entry.2.expr, more)) :
    ReadsAs parseEntry (piecesOfEntry entry) (exprOfEntry entry) := by
  obtain ⟨key, value⟩ := entry
  have hkind : key.written.quote.kind = .string := by
    show key.quote.kind = .string
    have hquote := key.quote_ne
    cases hkey : key.quote with
    | single => rfl
    | double => rfl
    | backtick => exact absurd hkey hquote
  refine ⟨⟨key.written.quote.kind, key.written.chars, _, rfl, ?_⟩, fun cursor more hmore => ?_⟩
  · rw [hkind]
    rfl
  · have hkey : entryKey? (cursor.terminal key.written.quote.kind key.written.chars) =
        some key.value := by
      rw [entryKey?, kind_terminal, hkind, text_terminal]
      exact congrArg some key.unquote_written
    dsimp only [piecesOfEntry]
    rw [Piece.quoted, colon, Piece.space, lay, lay, lay, List.cons_append, List.cons_append,
      parseEntry_cons, hkey]
    dsimp only
    rw [kind_terminal, if_pos rfl, hvalue _ hmore]
    rfl

theorem parseExpr_quoted (literal : QuotedText) {t : Terminal} (hkind : t.kind = literal.quote.kind)
    (htext : t.text = String.ofList literal.written.chars) {more : List Terminal}
    (hmore : atItemEnd more = true) :
    parseExpr (t :: more) = .ok (.string literal.value, more) := by
  have hrest : parseRest (t :: more) (.string literal.value) more =
      .ok (.string literal.value, more) := by
    rw [parseRest, if_pos hmore]
  rw [parseExpr_cons, hkind, htext, literal.unquote_written, String.toList_ofList]
  cases hquote : literal.quote with
  | single => exact hrest
  | double => exact hrest
  | backtick =>
    simp only [Quote.kind, literal.hasSubstitution_written hquote]
    exact hrest

/-- An argument is read whole, wherever it stands. -/
theorem parseExpr_lay (argument : ArgumentOutline) (cursor : Cursor) {more : List Terminal}
    (hmore : atItemEnd more = true) :
    parseExpr (cursor.lay argument.pieces ++ more) = .ok (argument.expr, more) := by
  have hrest : ∀ {more : List Terminal}, atItemEnd more = true →
      ∀ ts expr, parseRest ts expr more = .ok (expr, more) := by
    intro more hmore ts expr
    rw [parseRest, if_pos hmore]
  induction argument using induct generalizing cursor more with
  | string literal => exact parseExpr_quoted literal rfl rfl hmore
  | name identifier =>
    rw [ArgumentOutline.pieces, Piece.word, lay, lay, List.singleton_append, parseExpr_cons,
      kind_terminal, text_terminal, Identifier.ofList_chars, expr]
    exact hrest hmore _ _
  | array items ih =>
    have hitems : ∀ item ∈ items, ReadsAs (parseItem .square) item.pieces item.expr :=
      fun item hitem => readsAs_item fun cursor => ih item hitem cursor
    rw [ArgumentOutline.pieces, itemPieces_eq, lay_bracketed, List.cons_append, List.append_assoc,
      List.singleton_append, parseExpr_cons, kind_terminal, expr, itemExprs_eq]
    dsimp only
    rw [parse_commaList (parseItems_cons .square _) hitems _ (kind_terminal _ _ _) more, ok_bind]
    exact hrest hmore _ _
  | object entries ih =>
    have hentries : ∀ entry ∈ entries,
        ReadsAs parseEntry (piecesOfEntry entry) (exprOfEntry entry) :=
      fun entry hentry => readsAs_entry fun cursor => ih entry hentry cursor
    rw [ArgumentOutline.pieces, entryPieces_eq, lay_bracketed, List.cons_append, List.append_assoc,
      List.singleton_append, parseExpr_cons, kind_terminal, expr, entryExprs_eq]
    dsimp only
    rw [parse_commaList (parseEntries_cons _) hentries _ (kind_terminal _ _ _) more, ok_bind]
    exact hrest hmore _ _

theorem parseDecorator_lay (cursor : Cursor) (name : Identifier)
    (arguments : List ArgumentOutline) (more : List Terminal) :
    ∃ sign rest, cursor.lay (decoratorPieces name arguments) ++ more = sign :: rest ∧
      sign.kind = .atSign ∧ sign.line = cursor.line ∧ sign.doc = cursor.doc ∧
      parseDecorator sign rest =
        .ok (⟨name.text, String.ofList (printAll (decoratorPieces name arguments)),
          arguments.map ArgumentOutline.expr⟩, more) := by
  let list := commaList (arguments.map ArgumentOutline.pieces)
  have hitems : ∀ argument ∈ arguments,
      ReadsAs (parseItem .paren) argument.pieces argument.expr :=
    fun argument _ => readsAs_item fun cursor => parseExpr_lay argument cursor
  have htrim : trim (printAll (decoratorPieces name arguments)) =
      printAll (decoratorPieces name arguments) :=
    trim_printAll (by decide) (allRead_decoratorPieces name arguments separates_nil)
      (((endsSolid_bracketed .paren list).cons _).cons _)
  have hcapture := cursor.capture_lay .atSign ['@'] (.word name :: bracketed .paren list) more
  let named := cursor.pass .atSign ['@']
  let called := named.pass .word name.chars
  let opened := called.pass (.opening .paren) ['(']
  refine ⟨cursor.terminal .atSign ['@'], named.lay (.word name :: bracketed .paren list) ++ more,
    rfl, rfl, rfl, rfl, ?_⟩
  have hlay : named.lay (.word name :: bracketed .paren list) ++ more =
      named.terminal .word name.chars :: called.terminal (.opening .paren) ['('] ::
        (opened.lay list ++ (opened.passAll list).terminal (.closing .paren) [')'] :: more) := by
    rw [Piece.word, lay, lay_bracketed, List.cons_append, List.cons_append, List.append_assoc]
    rfl
  have hname : ∀ rest,
      parseDecoratorName (named.terminal .word name.chars ::
        called.terminal (.opening .paren) ['('] :: rest) =
        .ok (name.text, called.terminal (.opening .paren) ['('] :: rest) := by
    intro rest
    rw [parseDecoratorName_cons, kind_terminal, if_pos rfl, text_terminal, Identifier.ofList_chars]
    dsimp only
    rw [kind_terminal, if_neg (by decide)]
  rw [parseDecorator, hlay, hname, ok_bind]
  dsimp only
  rw [parseOptionalArguments, kind_terminal, if_pos rfl, parseArguments_eq,
    parse_commaList (parseItems_cons .paren _) hitems _ (kind_terminal _ _ _) more, ok_bind, ← hlay]
  exact congrArg (fun text => Except.ok
    (Decorator.mk name.text text (arguments.map ArgumentOutline.expr), more))
      (hcapture.trans (congrArg String.ofList htrim))

end Cursor

/-- The arguments of a decorator, as they stand between its parentheses. -/
def ArgumentOutline.printAll (arguments : List ArgumentOutline) : String :=
  String.ofList (Piece.printAll (Piece.commaList (arguments.map pieces)))

example : ArgumentOutline.printAll
      [.object [(⟨⟨.double, "a\"\n", nofun⟩, nofun⟩, .array [])], .name ⟨"b", rfl⟩] =
    "\x7b\"a\\\"\\n\": []\x7d, b" := by
  decide +kernel

/-- A decorator whose arguments are literals, names, arrays and objects is read with exactly these
arguments, whatever their strings contain and however deep they are nested. -/
theorem SourceFile.parse_arguments (name : String) (arguments : List ArgumentOutline) :
    (parse name ("@D(" ++ ArgumentOutline.printAll arguments ++ ")" ++ "\n" ++
        "class X \x7b\x7d")).value =
      .ok ⟨name, [⟨"X", 1, none, [⟨"D", "@D(" ++ ArgumentOutline.printAll arguments ++ ")",
        arguments.map ArgumentOutline.expr⟩], none, []⟩]⟩ := by
  let decoratorName : Identifier := ⟨"D", by decide⟩
  let pieces := Piece.decoratorPieces decoratorName arguments
  have htext : "@D(" ++ ArgumentOutline.printAll arguments ++ ")" =
      String.ofList (Piece.printAll pieces) := by
    rw [Piece.printAll_decoratorPieces, ← String.toList_inj]
    simp [ArgumentOutline.printAll, decoratorName, Identifier.chars]
  have hclass : (String.ofList (Piece.printAll pieces) ++ "\n" ++ "class X \x7b\x7d").toList =
      Piece.printAll pieces ++ emptyClass := by
    rw [String.toList_append, String.toList_append, String.toList_ofList, List.append_assoc]
    rfl
  have hread : Piece.AllRead pieces emptyClass :=
    Piece.allRead_decoratorPieces decoratorName arguments (separates_cons (by decide) _)
  let next := Cursor.start.passAll pieces
  obtain ⟨sign, rest, hlay, hkind, hline, hdoc, hdecorator⟩ :=
    Cursor.start.parseDecorator_lay decoratorName arguments (next.terminals emptyClass)
  have hpreamble : parsePreamble (sign :: rest) =
      .ok ([⟨"D", String.ofList (Piece.printAll pieces), arguments.map ArgumentOutline.expr⟩],
        next.terminals emptyClass) := by
    rw [parsePreamble_sign hkind, hdecorator, ok_bind]
    dsimp only
    rw [parsePreamble_emptyClass]
    rfl
  refine value_parse_eq_ok_iff.2 ⟨_, ?_, rfl⟩
  rw [htext, scan, hclass, ← Cursor.terminals_start, Cursor.terminals_printAll _ hread, hlay,
    value_parseDeclarations_emptyClass hpreamble, hline, hdoc]
  rfl

end ComponentDocs
