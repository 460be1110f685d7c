import Mathlib.Data.List.Chain
import ComponentDocs.Proofs.Outline.TypeExpr

/-!
# Properties as printed

A property is a name with an optional type and an optional initial value.  A semicolon ends it.
Without one it ends with its line, unless the next line goes on with it: a word such as `as` in
front of a line goes on with an initial value, and the word `is` with a type.

* `SourceFile.parse_typeExpr`: the type of a property is exactly what was printed, whatever stands
  behind it.
* `SourceFile.parse_lines`: semicolons at the ends of lines make no difference.
-/

namespace ComponentDocs

open Text Token Terminal Declaration Piece

/-! ## Initial values -/

/-- A name that can end an expression. -/
structure ValueName where
  word : Identifier
  text_not_mem : word.text ∉ leadingWords

inductive InitialValue where
  | number (number : NumberText)
  | string (literal : QuotedLiteral)
  | name (name : ValueName)
  | list (bracket : Bracket) (items : List InitialValue)

namespace InitialValue

theorem induct {motive : InitialValue → Prop} (number : ∀ number, motive (.number number))
    (string : ∀ literal, motive (.string literal)) (name : ∀ name, motive (.name name))
    (list : ∀ bracket items, (∀ item ∈ items, motive item) → motive (.list bracket items))
    (value : InitialValue) : motive value :=
  @InitialValue.rec motive (fun items => ∀ item ∈ items, motive item) number string name list nofun
    (fun _ _ hitem hitems => List.forall_mem_cons.2 ⟨hitem, hitems⟩) value

mutual

def pieces : InitialValue → List Piece
  | .number digits => [.number digits]
  | .string literal => [.quoted literal]
  | .name identifier => [.word identifier.word]
  | .list bracket items => bracketed bracket (commaList (itemPieces items))

def itemPieces : List InitialValue → List (List Piece)
  | [] => []
  | item :: items => item.pieces :: itemPieces items

end

theorem itemPieces_eq (items : List InitialValue) : itemPieces items = items.map pieces :=
  eq_map_of_cons rfl (fun _ _ => rfl) items

theorem readable_pieces (value : InitialValue) : Readable value.pieces := by
  induction value using induct with
  | number digits => exact readable_number digits
  | string literal => exact readable_quoted literal
  | name identifier => exact readable_word identifier.word
  | list bracket items ih =>
    rw [pieces, itemPieces_eq]
    exact readable_bracketed bracket (readable_commaList (List.forall_mem_map.2 ih))

theorem nested_items {items : List InitialValue}
    (hitems : ∀ item ∈ items, Nested (kinds item.pieces)) :
    Nested (kinds (commaList (itemPieces items))) := by
  rw [itemPieces_eq]
  exact kinds_intercalate .nil .append (.plain rfl .nil) (List.forall_mem_map.2 hitems)

theorem nested_pieces (value : InitialValue) : Nested (kinds value.pieces) := by
  induction value using induct with
  | number digits => exact .plain rfl .nil
  | string literal =>
    refine .plain ?_ .nil
    cases literal.quote <;> rfl
  | name identifier => exact .plain rfl .nil
  | list bracket items ih =>
    rw [pieces, bracketed, kinds_token, kinds_append]
    exact .group (nested_items ih) .nil

end InitialValue

namespace Declaration

/-- An item that can end an expression does so, wherever it stands. -/
theorem skipInitializer_item {t : Terminal} (ht : t.endsExpression = true)
    {rest after : List Terminal} (hitem : skipItem t rest = .ok after) :
    skipInitializer false (t :: rest) = skipInitializer true after := by
  have hstop : ¬(t.kind = .semicolon ∨ t.kind = .closing .brace) := by
    rintro (hkind | hkind) <;> rw [endsExpression, hkind] at ht <;> cases ht
  have hclosing : t.kind.isClosing = false := by
    cases hkind : t.kind with
    | closing bracket =>
      rw [endsExpression, hkind] at ht
      cases ht
    | _ => rfl
  rw [skipInitializer_cons, if_neg hstop, Bool.and_false, Bool.false_and, if_neg Bool.false_ne_true,
    hclosing, if_neg Bool.false_ne_true, hitem, ok_bind, ht]

end Declaration

/-- Behind a value an initializer is complete. -/
theorem Cursor.skipInitializer_lay (value : InitialValue) (cursor : Cursor)
    (rest : List Terminal) :
    skipInitializer false (cursor.lay value.pieces ++ rest) = skipInitializer true rest := by
  cases value with
  | number digits => exact skipInitializer_item rfl rfl
  | string literal =>
    rw [InitialValue.pieces, Piece.quoted]
    refine skipInitializer_item ?_ ?_ <;> cases literal.quote <;> rfl
  | name identifier =>
    refine skipInitializer_item ?_ rfl
    rw [endsExpression, kind_terminal, text_terminal, Identifier.ofList_chars]
    simpa using identifier.text_not_mem
  | list bracket items =>
    rw [InitialValue.pieces, lay_bracketed, List.cons_append, List.append_assoc,
      List.singleton_append]
    refine skipInitializer_item rfl ?_
    rw [skipItem, kind_terminal]
    refine skipGroup_nested _ ?_ (kind_terminal _ _ _) rest
    rw [map_kind_lay]
    exact InitialValue.nested_items fun item _ => item.nested_pieces

/-! ## Properties -/

structure PropertyOutline where
  name : Identifier
  type : Option TypeExpr
  initializer : Option InitialValue

namespace PropertyOutline

def typePieces : Option TypeExpr → List Piece
  | none => []
  | some type => colon :: space :: type.pieces

def initializerPieces : Option InitialValue → List Piece
  | none => []
  | some value => space :: .token .equals ['='] :: space :: value.pieces

def endPieces (terminated : Bool) : List Piece :=
  if terminated then [semicolon] else []

variable (property : PropertyOutline)

/-- The property with or without a semicolon. -/
def pieces (terminated : Bool) : List Piece :=
  .word property.name :: (typePieces property.type ++
    (initializerPieces property.initializer ++ endPieces terminated))

def member : Member :=
  ⟨.property, property.name.text, .none, [], none, property.type.map TypeExpr.print⟩

theorem allRead_endPieces (terminated : Bool) (rest : List Char) :
    AllRead (endPieces terminated) rest := by
  cases terminated with
  | false => trivial
  | true => exact ⟨isToken_symbol (by decide) _, trivial⟩

theorem separates_endPieces {terminated : Bool} {rest : List Char}
    (hrest : terminated = false → Separates rest) :
    Separates (printAll (endPieces terminated) ++ rest) := by
  cases terminated with
  | false => exact hrest rfl
  | true => exact separates_cons (by decide) _

theorem readable_initializerPieces (initializer : Option InitialValue) :
    Readable (initializerPieces initializer) := by
  cases initializer with
  | none => exact readable_nil
  | some value => exact fun rest hrest => ⟨isToken_equals _, value.readable_pieces rest hrest⟩

theorem separates_initializerPieces (initializer : Option InitialValue) {rest : List Char}
    (hrest : Separates rest) : Separates (printAll (initializerPieces initializer) ++ rest) := by
  cases initializer with
  | none => exact hrest
  | some value => exact separates_cons (by decide) _

theorem readable_typePieces (type : Option TypeExpr) : Readable (typePieces type) := by
  cases type with
  | none => exact readable_nil
  | some type =>
    exact fun rest hrest => ⟨isToken_symbol (by decide) _, type.readable_pieces rest hrest⟩

theorem separates_typePieces (type : Option TypeExpr) {rest : List Char} (hrest : Separates rest) :
    Separates (printAll (typePieces type) ++ rest) := by
  cases type with
  | none => exact hrest
  | some type => exact separates_cons (by decide) _

theorem allRead_pieces {terminated : Bool} {rest : List Char}
    (hrest : terminated = false → Separates rest) : AllRead (property.pieces terminated) rest := by
  let tail := initializerPieces property.initializer ++ endPieces terminated
  have hend := separates_endPieces hrest
  have htail : Separates (printAll tail ++ rest) := by
    rw [printAll_append, List.append_assoc]
    exact separates_initializerPieces property.initializer hend
  have htype : Separates (printAll (typePieces property.type ++ tail) ++ rest) := by
    rw [printAll_append, List.append_assoc]
    exact separates_typePieces property.type htail
  exact ⟨isToken_word property.name htype.isWordPart,
    allRead_append.2 ⟨readable_typePieces _ _ htail, allRead_append.2
      ⟨readable_initializerPieces _ _ hend, allRead_endPieces terminated rest⟩⟩⟩

/-- Without a semicolon the property ends in front of this terminal: the end of the class, or a name
on the next line that goes on neither with the value nor with the type. -/
structure EndsAt (t : Terminal) : Prop where
  begins : t.kind = .closing .brace ∨ t.kind = .word ∧ t.newlineBefore = true
  not_joining : property.initializer.isSome = true → t.continuesExpression = false
  not_testing : property.initializer = none → property.type.isSome = true → t.isWord "is" = false

/-- The property has ended in front of this terminal, which may be its semicolon. -/
def StopsAt (stop : Terminal) : Prop :=
  stop.kind = .semicolon ∨ property.EndsAt stop

namespace StopsAt

variable {property} {stop : Terminal} (h : property.StopsAt stop)

include h

theorem kind_mem : stop.kind ∈ [.semicolon, .closing .brace, .word] := by
  rcases h with hkind | hends
  · simp [hkind]
  · rcases hends.begins with hkind | ⟨hkind, -⟩ <;> simp [hkind]

theorem endsName_cons (more : List Terminal) : endsName (stop :: more) = true := by
  rcases h with hkind | hends
  · simp [endsName, hkind]
  · rcases hends.begins with hkind | ⟨-, hnewline⟩
    · simp [endsName, hkind]
    · simp [endsName, hnewline]

theorem isWord_is (hinitializer : property.initializer = none)
    (htype : property.type.isSome = true) : stop.isWord "is" = false := by
  rcases h with hkind | hends
  · simp [isWord, hkind]
  · exact hends.not_testing hinitializer htype

theorem skipInitializer_cons (hinitializer : property.initializer.isSome = true)
    (more : List Terminal) : skipInitializer true (stop :: more) = .ok (stop :: more) := by
  rw [Declaration.skipInitializer_cons]
  rcases h with hkind | hends
  · rw [if_pos (.inl hkind)]
  · rcases hends.begins with hkind | ⟨-, hnewline⟩
    · rw [if_pos (.inr hkind)]
    · rw [hnewline, hends.not_joining hinitializer]
      split <;> rfl

end StopsAt

end PropertyOutline

namespace Cursor

open PropertyOutline

theorem lay_endPieces {property : PropertyOutline} {terminated : Bool} (cursor : Cursor)
    {t : Terminal} (ht : terminated = false → property.EndsAt t) (rest : List Terminal) :
    ∃ stop more, cursor.lay (endPieces terminated) ++ t :: rest = stop :: more ∧
      property.StopsAt stop ∧ skipOptional .semicolon (stop :: more) = t :: rest := by
  cases terminated with
  | true => exact ⟨_, _, rfl, .inl rfl, rfl⟩
  | false =>
    refine ⟨t, rest, rfl, .inr (ht rfl), ?_⟩
    rcases (ht rfl).begins with hkind | ⟨hkind, -⟩ <;> simp [skipOptional, hkind]

/-- What stands behind the name and the type of a property is passed with its end. -/
theorem lay_propertyEnd {property : PropertyOutline} {terminated : Bool} (cursor : Cursor)
    {t : Terminal} (ht : terminated = false → property.EndsAt t) (rest : List Terminal) :
    ∃ first others after,
      cursor.lay (initializerPieces property.initializer ++ endPieces terminated) ++ t :: rest =
        first :: others ∧
      first.kind ∈ [.equals, .semicolon, .closing .brace, .word] ∧
      endsName (first :: others) = true ∧
      (property.type.isSome = true → first.isWord "is" = false) ∧
      skipOptionalInitializer (first :: others) = .ok after ∧
      skipOptional .semicolon after = t :: rest := by
  rw [lay_append, List.append_assoc]
  obtain ⟨stop, more, hlay, hstop, hskip⟩ :=
    (cursor.passAll (initializerPieces property.initializer)).lay_endPieces ht rest
  rw [hlay]
  cases hinitializer : property.initializer with
  | none =>
    have hequals : stop.kind ≠ .equals := by
      intro hkind
      have hmem := hstop.kind_mem
      rw [hkind] at hmem
      exact absurd hmem (by decide)
    refine ⟨stop, more, stop :: more, rfl, List.mem_cons_of_mem _ hstop.kind_mem,
      hstop.endsName_cons more, hstop.isWord_is hinitializer, ?_, hskip⟩
    rw [skipOptionalInitializer, if_neg hequals]
  | some value =>
    have hend := hstop.skipInitializer_cons (by rw [hinitializer]; rfl) more
    refine ⟨_, _, stop :: more, rfl, by rw [kind_terminal]; decide, ?_, fun _ => rfl, ?_, hskip⟩
    · simp [endsName]
    · exact (skipInitializer_lay value _ _).trans hend

/-- A property is a member of its own, and what follows it is read as if it stood alone. -/
theorem parseMembers_property (opener : Terminal) {cursor : Cursor}
    (hcomments : cursor.comments = []) (property : PropertyOutline) {terminated : Bool}
    {t : Terminal} (ht : terminated = false → property.EndsAt t) (rest : List Terminal) :
    parseMembers opener (cursor.lay (property.pieces terminated) ++ t :: rest) =
      parseMembers opener (t :: rest) >>= fun (members, final) =>
        .ok (property.member :: members, final) := by
  let called := cursor.pass .word property.name.chars
  have hdoc : cursor.doc = none := by
    rw [doc, hcomments]
    rfl
  suffices hmember : parseMember (cursor.lay (property.pieces terminated) ++ t :: rest) =
      .ok (some property.member, t :: rest) by
    rw [PropertyOutline.pieces, Piece.word, lay, List.cons_append] at hmember ⊢
    rw [parseMembers_cons, kind_terminal, if_neg (by decide), if_neg (by decide), hmember]
    rfl
  rw [PropertyOutline.pieces, Piece.word, lay, List.cons_append, lay_append, List.append_assoc]
  obtain ⟨first, others, after, hlay, hkind, hends, his, hinitializer, hafter⟩ :=
    (called.passAll (typePieces property.type)).lay_propertyEnd ht rest
  rw [hlay]
  simp only [List.mem_cons, List.not_mem_nil, or_false] at hkind
  -- Without a type the name ends here; with one, the type has to.
  cases htype : property.type with
  | none =>
    have hsign : first.kind ∉ [.opening .brace, .opening .paren, .less, .question, .bang] := by
      rcases hkind with hkind | hkind | hkind | hkind <;> rw [hkind] <;> decide
    have hnone : parsePropertyType (first :: others) = .ok (none, first :: others) := by
      rcases hkind with hkind | hkind | hkind | hkind <;> simp [parsePropertyType, hkind]
    show parseMember (_ :: first :: others) = _
    rw [parseMember_property rfl hends hsign hnone hinitializer, hafter, text_terminal,
      Identifier.ofList_chars, doc_terminal, hdoc, member, htype]
    rfl
  | some type =>
    let typed := (called.pass .colon [':']).skip [' '] isSpace_blank
    have hname : EndsTypeName [first] := by
      refine endsTypeName_cons ⟨?_, ?_, his (by rw [htype]; rfl)⟩
      all_goals rcases hkind with hkind | hkind | hkind | hkind <;> rw [hkind] <;> decide
    have hindex : ¬(first.kind = .opening .square ∧ first.newlineBefore = false) := by
      rcases hkind with hkind | hkind | hkind | hkind <;> simp [hkind]
    have hjoin : first.isTypeJoin = false := by
      rcases hkind with hkind | hkind | hkind | hkind <;> simp [isTypeJoin, isOperator, hkind]
    have hskip := skipType_lay type typed hname hindex hjoin others
    show parseMember (_ :: called.terminal .colon [':'] ::
      (typed.lay type.pieces ++ first :: others)) = _
    rw [parseMember_property rfl rfl (by rw [kind_terminal]; decide)
        (parsePropertyType_colon rfl hskip) hinitializer, hafter, capture_type, text_terminal,
      Identifier.ofList_chars, doc_terminal, hdoc, member, htype]
    rfl

end Cursor

/-! ## Classes -/

/-- Between the braces of a class these pieces are read as these members. -/
def ReadsMembers (body : List Piece) (members : List Member) : Prop :=
  ∀ (opener closer : Terminal) {cursor : Cursor}, cursor.comments = [] →
    closer.kind = .closing .brace →
    parseMembers opener (cursor.lay body ++ [closer]) = .ok (members, [])

/-- A class with this name and body. -/
def classPieces (name : Identifier) (body : List Piece) : List Piece :=
  .word classKeyword :: space :: .word name :: space :: bracketed .brace body

theorem print_classPieces (name : Identifier) (body : List Piece) :
    String.ofList (printAll (classPieces name body)) =
      "class " ++ name.text ++ " \x7b" ++ String.ofList (printAll body) ++ "\x7d" := by
  rw [← String.toList_inj, classPieces, bracketed]
  simp [Piece.word, Piece.space, chars, Identifier.chars, classKeyword, Bracket.openingChar,
    Bracket.closingChar]

theorem readable_classPieces (name : Identifier) {body : List Piece} (hbody : Readable body) :
    Readable (classPieces name body) := by
  intro rest hrest
  have hspace : ∀ rest : List Char, ∀ c ∈ (' ' :: rest).head?, Literal.isWordPart c = false :=
    fun rest => (@separates_cons ' ' (by decide) rest).isWordPart
  exact ⟨isToken_word classKeyword (hspace _), isToken_word name (hspace _),
    readable_bracketed .brace hbody rest hrest⟩

/-- The members of a class are those of its body. -/
theorem SourceFile.parse_classPieces (file : String) {name : Identifier}
    (hname : name.text ∉ ["extends", "implements"]) {body : List Piece} {members : List Member}
    (hread : Readable body) (hmembers : ReadsMembers body members) :
    (parse file (String.ofList (printAll (classPieces name body)))).value =
      .ok ⟨file, [⟨name.text, 1, none, [], none, members⟩]⟩ := by
  refine value_parse_eq_ok_iff.2 ⟨_, ?_, rfl⟩
  have hterminals := Cursor.start.terminals_printAll
    (readable_classPieces name hread [] separates_nil)
  rw [List.append_nil, Cursor.terminals_nil, List.append_nil, Cursor.terminals_start] at hterminals
  have hreserved : ∀ cursor : Cursor,
      (cursor.terminal .word name.chars).text ∉ ["extends", "implements"] := by
    intro cursor
    rw [Cursor.text_terminal, Identifier.ofList_chars]
    exact hname
  rw [scan, String.toList_ofList, hterminals, classPieces, Piece.word, Piece.word, Piece.space,
    Cursor.lay, Cursor.lay, Cursor.lay, Cursor.lay, Cursor.lay_bracketed,
    value_parseDeclarations_class rfl rfl (hreserved _) rfl, hmembers _ _ rfl rfl, ok_bind]
  dsimp only
  rw [parseDeclarations, Cursor.text_terminal, Identifier.ofList_chars]
  rfl

/-! ## The extent of a type -/

/-- What stands between the type of a property and the next property. -/
inductive PropertyEnd where
  | semicolon
  | initialized
  | lineBreak

namespace PropertyEnd

def print : PropertyEnd → String
  | semicolon => ";"
  | initialized => " = 0;"
  | lineBreak => "\n"

def initializer : PropertyEnd → Option InitialValue
  | initialized => some (.number ⟨'0', [], rfl, rfl⟩)
  | _ => none

def isTerminated : PropertyEnd → Bool
  | lineBreak => false
  | _ => true

/-- The line feed in the place of a semicolon. -/
def blankPieces : PropertyEnd → List Piece
  | lineBreak => [lineFeed]
  | _ => []

end PropertyEnd

/-- A property with this type and end. -/
def typedProperty (name : Identifier) (type : TypeExpr) (stop : PropertyEnd) : List Piece :=
  PropertyOutline.pieces ⟨name, some type, stop.initializer⟩ stop.isTerminated ++ stop.blankPieces

theorem print_typedProperty (name : Identifier) (type : TypeExpr) (stop : PropertyEnd) :
    String.ofList (printAll (typedProperty name type stop)) =
      name.text ++ ": " ++ type.print ++ stop.print := by
  rw [← String.toList_inj, typedProperty, PropertyOutline.pieces]
  cases stop <;>
    simp [PropertyOutline.typePieces, PropertyOutline.initializerPieces, PropertyOutline.endPieces,
      PropertyEnd.initializer, PropertyEnd.isTerminated, PropertyEnd.blankPieces, PropertyEnd.print,
      InitialValue.pieces, Piece.word, Piece.space, Piece.lineFeed, Piece.number, NumberText.chars,
      colon, semicolon, chars, Identifier.chars, TypeExpr.print]

theorem allRead_typedProperty (name : Identifier) (type : TypeExpr) (stop : PropertyEnd)
    (rest : List Char) : AllRead (typedProperty name type stop) rest := by
  cases stop with
  | lineBreak =>
    exact allRead_append.2 ⟨PropertyOutline.allRead_pieces _ fun _ => separates_cons (by decide) _,
      trivial⟩
  | _ => exact allRead_append.2 ⟨PropertyOutline.allRead_pieces _ nofun, trivial⟩

namespace Cursor

open PropertyOutline

/-- A name on the next line ends a property that it does not go on with. -/
theorem endsAt_name {property : PropertyOutline} {name : Identifier}
    (hjoining : property.initializer.isSome = true → name.text ∉ joiningWords)
    (htesting : property.initializer = none → property.type.isSome = true → name.text ≠ "is")
    {cursor : Cursor} (hnewline : cursor.newline = true) :
    property.EndsAt (cursor.terminal .word name.chars) := by
  refine ⟨.inr ⟨rfl, hnewline⟩, fun hsome => ?_, fun hnone htype => ?_⟩
  · rw [continuesExpression, kind_terminal, text_terminal, Identifier.ofList_chars]
    simpa using hjoining hsome
  · rw [isWord_terminal]
    exact beq_eq_false_iff_ne.2 (htesting hnone htype)

theorem newline_lineFeed (cursor : Cursor) : (cursor.passAll [lineFeed]).newline = true := by
  rw [lineFeed, passAll, passAll, newline_skip]
  exact Bool.or_true _

theorem parseMembers_typedProperty (opener : Terminal) {cursor : Cursor}
    (hcomments : cursor.comments = []) (name : Identifier) (type : TypeExpr) {stop : PropertyEnd}
    {t : Terminal} (ht : stop = .lineBreak → PropertyOutline.EndsAt ⟨name, some type, none⟩ t)
    (rest : List Terminal) :
    parseMembers opener (cursor.lay (typedProperty name type stop) ++ t :: rest) =
      parseMembers opener (t :: rest) >>= fun (members, final) =>
        .ok (⟨.property, name.text, .none, [], none, some type.print⟩ :: members, final) := by
  have hends : stop.isTerminated = false →
      PropertyOutline.EndsAt ⟨name, some type, stop.initializer⟩ t := by
    intro hstop
    cases stop with
    | lineBreak => exact ht rfl
    | _ => cases hstop
  have hlay : cursor.lay (typedProperty name type stop) =
      cursor.lay
        (PropertyOutline.pieces ⟨name, some type, stop.initializer⟩ stop.isTerminated) := by
    rw [typedProperty, lay_append]
    cases stop <;> exact List.append_nil _
  rw [hlay, parseMembers_property opener hcomments _ hends]
  rfl

/-- Two properties in a row, when the second one does not go on with the type of the first. -/
theorem readsMembers_typedProperties (first second : Identifier) (hsecond : second.text ≠ "is")
    (type type' : TypeExpr) (stop : PropertyEnd) :
    ReadsMembers (typedProperty first type stop ++ typedProperty second type' .semicolon)
      [⟨.property, first.text, .none, [], none, some type.print⟩,
        ⟨.property, second.text, .none, [], none, some type'.print⟩] := by
  intro opener closer cursor hcomments hcloser
  let next := cursor.passAll (typedProperty first type stop)
  have hends : stop = .lineBreak → PropertyOutline.EndsAt ⟨first, some type, none⟩
      (next.terminal .word second.chars) := by
    rintro rfl
    refine @endsAt_name ⟨first, some type, none⟩ second nofun (fun _ _ => hsecond) _ ?_
    exact (congrArg newline (passAll_append _ _ _)).trans (newline_lineFeed _)
  have hlast : parseMembers opener [closer] = .ok ([], []) := by
    rw [parseMembers_cons, hcloser]
    rfl
  obtain ⟨rest, hrest⟩ : ∃ rest, next.lay (typedProperty second type' .semicolon) ++ [closer] =
      next.terminal .word second.chars :: rest := ⟨_, rfl⟩
  have hnext := @parseMembers_typedProperty opener next (comments_passAll hcomments _) second type'
    .semicolon closer nofun []
  rw [lay_append, List.append_assoc, hrest, parseMembers_typedProperty opener hcomments _ _ hends,
    ← hrest, hnext, hlast]
  rfl

end Cursor

/-- The type of a property is exactly what was printed behind its colon, and the next property is
read as if it stood alone. -/
theorem SourceFile.parse_typeExpr (name : String) (type : TypeExpr) (stop : PropertyEnd) :
    (parse name ("class X \x7b" ++ ("p: " ++ type.print ++ stop.print ++ "q: string;") ++
        "\x7d")).value =
      .ok ⟨name, [⟨"X", 1, none, [], none,
        [⟨.property, "p", .none, [], none, some type.print⟩,
          ⟨.property, "q", .none, [], none, some "string"⟩]⟩]⟩ := by
  let className : Identifier := ⟨"X", by decide⟩
  let first : Identifier := ⟨"p", by decide⟩
  let second : Identifier := ⟨"q", by decide⟩
  let string : TypeExpr := .name ⟨⟨"string", by decide⟩, by decide, []⟩
  have hstring : string.print = "string" := by decide
  let body := typedProperty first type stop ++ typedProperty second string .semicolon
  have htext : "class X \x7b" ++ ("p: " ++ type.print ++ stop.print ++ "q: string;") ++ "\x7d" =
      String.ofList (printAll (classPieces className body)) := by
    rw [print_classPieces, printAll_append, String.ofList_append, print_typedProperty,
      print_typedProperty, hstring]
    simp [String.append_assoc, className, first, second, PropertyEnd.print]
  have hread : Readable body := fun rest _ =>
    allRead_append.2 ⟨allRead_typedProperty _ _ _ _, allRead_typedProperty _ _ _ rest⟩
  have hmembers := Cursor.readsMembers_typedProperties first second (by decide) type string stop
  rw [hstring] at hmembers
  rw [htext]
  exact parse_classPieces name (by decide) hread hmembers

/-! ## Ends of lines -/

namespace PropertyOutline

/-- The property on a line of its own. -/
def linePieces (terminated : Bool) (property : PropertyOutline) : List Piece :=
  property.pieces terminated ++ [lineFeed]

/-- A class with these properties, one on each line. -/
def printClass (terminated : Bool) (lines : List PropertyOutline) : String :=
  "class C \x7b\n" ++ String.ofList (printAll (lines.flatMap (linePieces terminated))) ++ "\x7d"

theorem allRead_lines (terminated : Bool) (lines : List PropertyOutline) (rest : List Char) :
    AllRead (lines.flatMap (linePieces terminated)) rest := by
  induction lines with
  | nil => trivial
  | cons line lines ih =>
    rw [List.flatMap_cons]
    refine allRead_append.2 ⟨allRead_append.2 ⟨line.allRead_pieces fun _ => ?_, trivial⟩, ih⟩
    exact separates_cons (by decide) _

/-- The name of the next line does not go on with this line. -/
structure EndsBefore (line next : PropertyOutline) : Prop where
  not_joining : line.initializer.isSome = true → next.name.text ∉ joiningWords
  not_testing : line.initializer = none → line.type.isSome = true → next.name.text ≠ "is"

end PropertyOutline

namespace Cursor

open PropertyOutline

/-- What follows a line is the name of the next one or the end of the class. -/
theorem lay_lines {terminated : Bool} {line : PropertyOutline} {lines : List PropertyOutline}
    (hlines : terminated = false → (line :: lines).IsChain EndsBefore) {cursor : Cursor}
    (hnewline : cursor.newline = true) {closer : Terminal}
    (hcloser : closer.kind = .closing .brace) :
    ∃ t rest, cursor.lay (lines.flatMap (linePieces terminated)) ++ [closer] = t :: rest ∧
      (terminated = false → line.EndsAt t) := by
  cases lines with
  | nil =>
    refine ⟨closer, [], rfl, fun _ => ⟨.inl hcloser, fun _ => ?_, fun _ _ => ?_⟩⟩
    · rw [continuesExpression, hcloser]
    · rw [isWord, hcloser]
      rfl
  | cons next others =>
    refine ⟨cursor.terminal .word next.name.chars, _, rfl, fun hterminated => ?_⟩
    obtain ⟨hends, -⟩ := List.isChain_cons_cons.1 (hlines hterminated)
    exact endsAt_name hends.not_joining hends.not_testing hnewline

/-- The lines of a class are read one by one. -/
theorem parseMembers_lines {terminated : Bool} (opener : Terminal) {closer : Terminal}
    (hcloser : closer.kind = .closing .brace) {lines : List PropertyOutline}
    (hlines : terminated = false → lines.IsChain EndsBefore) {cursor : Cursor}
    (hcomments : cursor.comments = []) :
    parseMembers opener (cursor.lay (lines.flatMap (linePieces terminated)) ++ [closer]) =
      .ok (lines.map member, []) := by
  induction lines generalizing cursor with
  | nil =>
    rw [List.flatMap_nil, lay, List.nil_append, parseMembers_cons, hcloser]
    rfl
  | cons line lines ih =>
    let next := (cursor.passAll (line.pieces terminated)).passAll [lineFeed]
    have hothers := ih (fun hterminated => (hlines hterminated).tail)
      (comments_passAll (comments_passAll hcomments (line.pieces terminated)) [lineFeed])
    obtain ⟨t, rest, hlay, hends⟩ := lay_lines hlines
      (newline_lineFeed (cursor.passAll (line.pieces terminated))) hcloser
    rw [List.flatMap_cons, linePieces, lay_append, lay_append, List.append_assoc, List.append_assoc,
      passAll_append]
    show parseMembers opener (cursor.lay (line.pieces terminated) ++
      (next.lay (lines.flatMap (linePieces terminated)) ++ [closer])) = _
    rw [hlay, parseMembers_property opener hcomments line hends, ← hlay, hothers]
    rfl

end Cursor

/-- A class is read with all its lines when each of them ends with a semicolon, or in front of a
line that does not go on with it. -/
theorem SourceFile.parse_printClass (name : String) {terminated : Bool}
    {lines : List PropertyOutline}
    (hlines : terminated = false → lines.IsChain PropertyOutline.EndsBefore) :
    (parse name (PropertyOutline.printClass terminated lines)).value =
      .ok ⟨name, [⟨"C", 1, none, [], none, lines.map PropertyOutline.member⟩]⟩ := by
  let className : Identifier := ⟨"C", by decide⟩
  let body := lineFeed :: lines.flatMap (PropertyOutline.linePieces terminated)
  have htext : PropertyOutline.printClass terminated lines =
      String.ofList (printAll (classPieces className body)) := by
    rw [print_classPieces, ← String.toList_inj]
    simp [PropertyOutline.printClass, className, body, lineFeed, chars]
  have hread : Readable body := fun rest _ => PropertyOutline.allRead_lines terminated lines rest
  rw [htext]
  exact parse_classPieces name (by decide) hread fun opener closer cursor hcomments hcloser =>
    Cursor.parseMembers_lines opener hcloser hlines
      (Cursor.comments_passAll hcomments [lineFeed])

/-- Semicolons at the ends of lines make no difference, unless the next line goes on with a line
that has none. -/
theorem SourceFile.parse_lines (name : String) {lines : List PropertyOutline}
    (hlines : lines.IsChain PropertyOutline.EndsBefore) :
    (parse name (PropertyOutline.printClass false lines)).value =
        (parse name (PropertyOutline.printClass true lines)).value ∧
      (parse name (PropertyOutline.printClass true lines)).value =
        .ok ⟨name, [⟨"C", 1, none, [], none, lines.map PropertyOutline.member⟩]⟩ := by
  have hterminated := @parse_printClass name true lines nofun
  exact ⟨(parse_printClass name fun _ => hlines).trans hterminated.symm, hterminated⟩

-- Names that are words of the language, behind a bare name, a type and a value.
theorem SourceFile.parse_lines_words :
    (parse "a.ts" "class C \x7b\nstatic\nis: as\nget: T = ['is', (1)]\nof = x\n\x7d").value =
      (parse "a.ts"
        "class C \x7b\nstatic;\nis: as;\nget: T = ['is', (1)];\nof = x;\n\x7d").value := by
  let one : NumberText := ⟨'1', [], rfl, rfl⟩
  let quoted : QuotedLiteral := ⟨.single, ['i', 's'], .plain (by decide) (.plain (by decide) .nil)⟩
  let value : InitialValue := .list .square [.string quoted, .list .paren [.number one]]
  let lines : List PropertyOutline :=
    [⟨⟨"static", rfl⟩, none, none⟩,
      ⟨⟨"is", rfl⟩, some (.name ⟨⟨"as", rfl⟩, by decide, []⟩), none⟩,
      ⟨⟨"get", rfl⟩, some (.name ⟨⟨"T", rfl⟩, by decide, []⟩), some value⟩,
      ⟨⟨"of", rfl⟩, none, some (.name ⟨⟨"x", rfl⟩, by decide⟩)⟩]
  have hlines : lines.IsChain PropertyOutline.EndsBefore :=
    .cons_cons ⟨nofun, nofun⟩ (.cons_cons ⟨nofun, fun _ _ => by decide⟩
      (.cons_cons ⟨fun _ => by decide, nofun⟩ (.singleton _)))
  have hplain : PropertyOutline.printClass false lines =
      "class C \x7b\nstatic\nis: as\nget: T = ['is', (1)]\nof = x\n\x7d" := by
    decide +kernel
  have hterminated : PropertyOutline.printClass true lines =
      "class C \x7b\nstatic;\nis: as;\nget: T = ['is', (1)];\nof = x;\n\x7d" := by
    decide +kernel
  rw [← hplain, ← hterminated]
  exact (parse_lines "a.ts" hlines).1

/-- A value, and on the next line a name that goes on with it. -/
def joinedLines : List PropertyOutline :=
  [⟨⟨"x", rfl⟩, none, some (.number ⟨'1', [], rfl, rfl⟩)⟩,
    ⟨⟨"as", rfl⟩, some (.name ⟨⟨"T", rfl⟩, by decide, []⟩), none⟩]

/-- A type, and on the next line a name that goes on with it. -/
def testedLines : List PropertyOutline :=
  [⟨⟨"x", rfl⟩, some (.name ⟨⟨"T", rfl⟩, by decide, []⟩), none⟩,
    ⟨⟨"is", rfl⟩, some (.name ⟨⟨"U", rfl⟩, by decide, []⟩), none⟩]

-- The name is lost with its type in the first class; the second one is not read at all.
theorem SourceFile.parse_joinedLines :
    PropertyOutline.printClass false joinedLines = "class C \x7b\nx = 1\nas: T\n\x7d" ∧
      (parse "a.ts" (PropertyOutline.printClass false joinedLines)).value =
        .ok ⟨"a.ts", [⟨"C", 1, none, [], none, [⟨.property, "x", .none, [], none, none⟩]⟩]⟩ ∧
      (parse "a.ts" (PropertyOutline.printClass false joinedLines)).value ≠
        (parse "a.ts" (PropertyOutline.printClass true joinedLines)).value ∧
      PropertyOutline.printClass false testedLines = "class C \x7b\nx: T\nis: U\n\x7d" ∧
      (parse "a.ts" (PropertyOutline.printClass false testedLines)).value.toOption = none ∧
      (parse "a.ts" (PropertyOutline.printClass true testedLines)).value.toOption ≠ none := by
  refine ⟨?_, ?_, ?_, ?_, ?_, ?_⟩ <;> decide +kernel

end ComponentDocs
