import ComponentDocs.Proofs.Captured
import ComponentDocs.Proofs.Declaration.Piece

/-!
# Types as printed

`TypeExpr` is a grammar of types: names with type arguments, index suffixes, unions and
intersections, functions, objects, tuples and literals.  Each of them is printed on one line.

Types are not read but skipped.  Three facts about the printed form say where skipping ends:

* the tokens of a type are nested, also with respect to angle brackets (`angleNested_pieces`), so a
  type inside brackets or among type arguments is passed whole;
* a type ends with a token, so brackets behind it stand on its line (`endsSolid_pieces`);
* at the printed form of a type, skipping goes on behind it as if one part had been skipped
  (`Cursor.skipTypeParts_lay`).

Where a type is kept, what is kept is what was printed (`Cursor.capture_type`).
-/

namespace ComponentDocs

open Text Token Terminal Declaration

/-! ## Angle brackets -/

/-- Brackets are nested among these kinds, and outside of them angle brackets are, with no semicolon
between them. -/
inductive AngleNested : List Kind → Prop
  | nil : AngleNested []
  | plain {kind : Kind} {rest : List Kind} (hbracket : kind.isBracket = false)
      (hplain : kind ∉ [.less, .greater, .semicolon]) (hrest : AngleNested rest) :
      AngleNested (kind :: rest)
  | group {bracket : Bracket} {inner rest : List Kind} (hinner : Nested inner)
      (hrest : AngleNested rest) :
      AngleNested (.opening bracket :: (inner ++ .closing bracket :: rest))
  | angles {inner rest : List Kind} (hinner : AngleNested inner) (hrest : AngleNested rest) :
      AngleNested (.less :: (inner ++ .greater :: rest))

namespace AngleNested

variable {kinds others : List Kind}

theorem append (h : AngleNested kinds) (hothers : AngleNested others) :
    AngleNested (kinds ++ others) := by
  induction h with
  | nil => exact hothers
  | plain hbracket hplain _ ih => exact .plain hbracket hplain ih
  | group hinner _ ih =>
    rw [List.cons_append, List.append_assoc]
    exact .group hinner ih
  | angles hinner _ _ ih =>
    rw [List.cons_append, List.append_assoc]
    exact .angles hinner ih

/-- Angle brackets are no brackets. -/
theorem nested (h : AngleNested kinds) : Nested kinds := by
  induction h with
  | nil => exact .nil
  | plain hbracket _ _ ih => exact .plain hbracket ih
  | group hinner _ ih => exact .group hinner ih
  | angles _ _ ihInner ihRest => exact .plain rfl (ihInner.append (.plain rfl ihRest))

end AngleNested

/-- A list of type arguments is passed over nested tokens. -/
theorem Declaration.closeAngles_nested (opener : Terminal) (depth : Nat) {inner : List Terminal}
    (hinner : AngleNested (inner.map Terminal.kind)) (rest : List Terminal) :
    closeAngles opener (depth + 1) (inner ++ rest) = closeAngles opener (depth + 1) rest := by
  generalize hkinds : inner.map Terminal.kind = kinds at hinner
  induction hinner generalizing depth inner rest with
  | nil => rw [List.map_eq_nil_iff.1 hkinds, List.nil_append]
  | plain hbracket hplain _ ih =>
    obtain ⟨t, others, rfl, rfl, hothers⟩ := List.map_eq_cons_iff.1 hkinds
    simp only [List.mem_cons, List.not_mem_nil, or_false, not_or] at hplain
    obtain ⟨hless, hgreater, hsemicolon⟩ := hplain
    have hclosing : ¬(t.kind.isClosing = true ∨ t.kind = .semicolon) := by
      rintro (hclosing | hkind)
      · cases hkind : t.kind with
        | closing bracket =>
          rw [hkind] at hbracket
          cases hbracket
        | _ =>
          rw [hkind] at hclosing
          cases hclosing
      · exact hsemicolon hkind
    have hitem : skipItem t (others ++ rest) = .ok (others ++ rest) := by
      rw [skipItem]
      split
      · rename_i hopening
        rw [hopening] at hbracket
        cases hbracket
      · rfl
    rw [List.cons_append, closeAngles_cons, if_neg hless, if_neg hgreater, if_neg hclosing, hitem,
      ok_bind, ih depth _ hothers]
  | @group bracket _ _ hgroup _ ih =>
    obtain ⟨t, others, rfl, hopening, hothers⟩ := List.map_eq_cons_iff.1 hkinds
    obtain ⟨group, behind, rfl, hgroupKinds, hbehind⟩ := List.map_eq_append_iff.1 hothers
    obtain ⟨closer, last, rfl, hclosing, hlast⟩ := List.map_eq_cons_iff.1 hbehind
    have hitem : skipItem t (group ++ closer :: last ++ rest) = .ok (last ++ rest) := by
      rw [skipItem, hopening, List.append_assoc, List.cons_append]
      exact skipGroup_nested t (hgroupKinds ▸ hgroup) hclosing (last ++ rest)
    rw [List.cons_append, closeAngles_cons, hitem, ok_bind, ih depth _ hlast, hopening]
    rfl
  | @angles _ _ _ _ ihInner ihRest =>
    obtain ⟨t, others, rfl, hless, hothers⟩ := List.map_eq_cons_iff.1 hkinds
    obtain ⟨list, behind, rfl, hlist, hbehind⟩ := List.map_eq_append_iff.1 hothers
    obtain ⟨closer, last, rfl, hgreater, hlast⟩ := List.map_eq_cons_iff.1 hbehind
    rw [List.cons_append, closeAngles_cons, if_pos hless, List.append_assoc,
      ihInner (depth + 1) _ hlist, List.cons_append, closeAngles_cons, hgreater]
    exact ihRest depth rest hlast

/-! ## Type expressions -/

/-- A name with the names that qualify it. -/
structure TypePath where
  head : Identifier
  head_not_mem : head.text ∉ typeOperators
  qualifiers : List Identifier

/-- A word in front of a type, such as `keyof`, `typeof` or `readonly`. -/
structure TypeOperator where
  word : Identifier
  text_mem : word.text ∈ typeOperators

inductive TypeJoin where
  | union
  | intersection

/-- The digits of an integer. -/
structure Digits where
  first : Char
  others : List Char
  isAsciiDigit_first : isAsciiDigit first = true
  isAsciiDigit_others : ∀ c ∈ others, isAsciiDigit c = true

inductive TypeExpr where
  | name (path : TypePath)
  | generic (path : TypePath) (arguments : List TypeExpr)
  | array (element : TypeExpr)
  | index (indexed key : TypeExpr)
  | joined (join : TypeJoin) (left right : TypeExpr)
  | function (parameters : List (Identifier × TypeExpr)) (result : TypeExpr)
  /-- The last field may have a semicolon behind it, too. -/
  | object (fields : List (Identifier × TypeExpr)) (closed : Bool)
  | tuple (items : List TypeExpr)
  | string (literal : QuotedLiteral)
  | integer (digits : Digits)
  | operator (word : TypeOperator) (operand : TypeExpr)

namespace Digits

open Literal

variable (digits : Digits)

theorem takeWhile_others : digits.others.takeWhile isDigitPart = digits.others := by
  have hparts : ∀ c ∈ digits.others, isDigitPart c = true := by
    intro c hc
    rw [isDigitPart, digits.isAsciiDigit_others c hc, Bool.true_or]
  have htake := @List.takeWhile_append_of_pos _ _ _ [] hparts
  rwa [List.append_nil, List.takeWhile_nil, List.append_nil] at htake

theorem radixLength_others : radixLength digits.others = 0 := by
  cases hothers : digits.others with
  | nil => rfl
  | cons c others =>
    have hstart := isWordStart_of_isAsciiDigit
      (digits.isAsciiDigit_others c (hothers ▸ List.mem_cons_self))
    have hmark : isRadixMark c = false := by
      refine Bool.eq_false_iff.2 fun hmark => ?_
      have hmarks : "xXbBoO".toList.all isWordStart = true := by decide
      rw [List.all_eq_true.1 hmarks c (List.contains_iff_mem.1 hmark)] at hstart
      cases hstart
    rw [radixLength, hmark]
    rfl

/-- Decimal digits are a number. -/
def number : NumberText where
  first := digits.first
  others := digits.others
  isAsciiDigit_first := digits.isAsciiDigit_first
  numberLength_others := by
    rw [numberLength, if_neg fun h => h.2 digits.radixLength_others, decimalLength,
      digits.takeWhile_others, List.drop_length]
    show digits.others.length + 0 + exponentLength (digits.others.drop digits.others.length) = _
    rw [List.drop_length]
    rfl

end Digits

namespace TypeJoin

def sign : TypeJoin → Char
  | union => '|'
  | intersection => '&'

theorem sign_mem_symbols (join : TypeJoin) : (join.sign, .operator) ∈ symbols := by
  cases join <;> decide

end TypeJoin

open Piece

namespace TypePath

/-- Names, each with a point in front of it. -/
def qualifierPieces (qualifiers : List Identifier) : List Piece :=
  qualifiers.flatMap fun name => [.token .dot ['.'], .word name]

theorem qualifierPieces_cons (name : Identifier) (qualifiers : List Identifier) :
    qualifierPieces (name :: qualifiers) =
      .token .dot ['.'] :: .word name :: qualifierPieces qualifiers :=
  rfl

def pieces (path : TypePath) : List Piece :=
  .word path.head :: qualifierPieces path.qualifiers

theorem isWordPart_qualifierPieces (qualifiers : List Identifier) {rest : List Char}
    (hrest : ∀ c ∈ rest.head?, Literal.isWordPart c = false) :
    ∀ c ∈ (printAll (qualifierPieces qualifiers) ++ rest).head?, Literal.isWordPart c = false := by
  cases qualifiers with
  | nil => exact hrest
  | cons name qualifiers =>
    rintro _ ⟨⟩
    rfl

theorem allRead_qualifierPieces (qualifiers : List Identifier) {rest : List Char}
    (hrest : ∀ c ∈ rest.head?, Literal.isWordPart c = false) :
    AllRead (qualifierPieces qualifiers) rest := by
  induction qualifiers with
  | nil => trivial
  | cons name qualifiers ih =>
    rw [qualifierPieces_cons]
    refine ⟨?_, isToken_word name (isWordPart_qualifierPieces qualifiers hrest), ih⟩
    rw [printAll_cons, List.append_assoc]
    exact isToken_dot name _

theorem allRead_pieces (path : TypePath) {rest : List Char}
    (hrest : ∀ c ∈ rest.head?, Literal.isWordPart c = false) : AllRead path.pieces rest :=
  ⟨isToken_word path.head (isWordPart_qualifierPieces _ hrest), allRead_qualifierPieces _ hrest⟩

theorem angleNested_qualifierPieces (qualifiers : List Identifier) :
    AngleNested (kinds (qualifierPieces qualifiers)) := by
  induction qualifiers with
  | nil => exact .nil
  | cons name qualifiers ih => exact .plain rfl (by decide) (.plain rfl (by decide) ih)

theorem angleNested_pieces (path : TypePath) : AngleNested (kinds path.pieces) :=
  .plain rfl (by decide) (angleNested_qualifierPieces path.qualifiers)

theorem endsSolid_pieces (path : TypePath) : EndsSolid path.pieces := by
  rcases List.eq_nil_or_concat path.qualifiers with hnil | ⟨before, last, hconcat⟩
  · rw [pieces, hnil]
    exact endsSolid_token rfl _
  · rw [pieces, hconcat, qualifierPieces, List.concat_eq_append, List.flatMap_append]
    exact (((endsSolid_token rfl _).append [_]).append _).cons _

end TypePath

namespace TypeExpr

/-- Fields with semicolons between them, and behind the last one when the list is closed. -/
def fieldList (closed : Bool) (fields : List (List Piece)) : List Piece :=
  match fields with
  | [] => []
  | _ :: _ =>
    space :: ([semicolon, space].intercalate fields ++
      ((if closed then [semicolon] else []) ++ [space]))

theorem induct {motive : TypeExpr → Prop} (name : ∀ path, motive (.name path))
    (generic : ∀ path arguments, (∀ argument ∈ arguments, motive argument) →
      motive (.generic path arguments))
    (array : ∀ element, motive element → motive (.array element))
    (index : ∀ indexed key, motive indexed → motive key → motive (.index indexed key))
    (joined : ∀ join left right, motive left → motive right → motive (.joined join left right))
    (function : ∀ parameters result, (∀ parameter ∈ parameters, motive parameter.2) →
      motive result → motive (.function parameters result))
    (object : ∀ fields closed, (∀ field ∈ fields, motive field.2) → motive (.object fields closed))
    (tuple : ∀ items, (∀ item ∈ items, motive item) → motive (.tuple items))
    (string : ∀ literal, motive (.string literal)) (integer : ∀ digits, motive (.integer digits))
    (operator : ∀ word operand, motive operand → motive (.operator word operand))
    (type : TypeExpr) : motive type :=
  @TypeExpr.rec motive (fun items => ∀ item ∈ items, motive item)
    (fun fields => ∀ field ∈ fields, motive field.2) (fun field => motive field.2) name generic
    array index joined function object tuple string integer operator nofun
    (fun _ _ hitem hitems => List.forall_mem_cons.2 ⟨hitem, hitems⟩) nofun
    (fun _ _ hfield hfields => List.forall_mem_cons.2 ⟨hfield, hfields⟩) (fun _ _ htype => htype)
    type

mutual

/-- The printed form. -/
def pieces : TypeExpr → List Piece
  | .name path => path.pieces
  | .generic path arguments =>
    path.pieces ++ .token .less ['<'] ::
      (commaList (itemPieces arguments) ++ [.token .greater ['>']])
  | .array element => element.pieces ++ bracketed .square []
  | .index indexed key => indexed.pieces ++ bracketed .square key.pieces
  | .joined join left right =>
    left.pieces ++ space :: .token .operator [join.sign] :: space :: right.pieces
  | .function parameters result =>
    bracketed .paren (commaList (fieldPieces parameters)) ++
      space :: .token .arrow ['=', '>'] :: space :: result.pieces
  | .object fields closed => bracketed .brace (fieldList closed (fieldPieces fields))
  | .tuple items => bracketed .square (commaList (itemPieces items))
  | .string literal => [.quoted literal]
  | .integer digits => [.number digits.number]
  | .operator word operand => .word word.word :: space :: operand.pieces

def itemPieces : List TypeExpr → List (List Piece)
  | [] => []
  | item :: items => item.pieces :: itemPieces items

def fieldPieces : List (Identifier × TypeExpr) → List (List Piece)
  | [] => []
  | (label, type) :: fields => (.word label :: colon :: space :: type.pieces) :: fieldPieces fields

end

def print (type : TypeExpr) : String :=
  String.ofList (printAll type.pieces)

def piecesOfField (field : Identifier × TypeExpr) : List Piece :=
  .word field.1 :: colon :: space :: field.2.pieces

theorem itemPieces_eq (items : List TypeExpr) : itemPieces items = items.map pieces :=
  eq_map_of_cons rfl (fun _ _ => rfl) items

theorem fieldPieces_eq (fields : List (Identifier × TypeExpr)) :
    fieldPieces fields = fields.map piecesOfField :=
  eq_map_of_cons rfl (fun _ _ => rfl) fields

/-! ## The printed form -/

theorem readable_fieldList (closed : Bool) {fields : List (List Piece)}
    (hfields : ∀ field ∈ fields, Readable field) : Readable (fieldList closed fields) := by
  cases fields with
  | nil => exact fun _ _ => trivial
  | cons field fields =>
    intro rest _
    have hlist : Readable ([semicolon, space].intercalate (field :: fields)) := by
      refine readable_intercalate (fun _ => ?_) (fun _ => ?_) hfields
      · exact ⟨isToken_symbol (by decide) _, trivial⟩
      · exact separates_cons (by decide) _
    refine allRead_append.2 ⟨hlist _ ?_, ?_⟩
    · cases closed <;> exact separates_cons (by decide) _
    · cases closed with
      | false => trivial
      | true => exact ⟨isToken_symbol (by decide) _, trivial⟩

theorem readable_piecesOfField {field : Identifier × TypeExpr} (htype : Readable field.2.pieces) :
    Readable (piecesOfField field) := by
  intro rest hrest
  refine ⟨isToken_word field.1 ?_, isToken_symbol (by decide) _, htype rest hrest⟩
  exact (@separates_cons ':' (by decide) _).isWordPart

theorem readable_pieces (type : TypeExpr) : Readable type.pieces := by
  induction type using induct with
  | name path => exact fun _ hrest => path.allRead_pieces hrest.isWordPart
  | generic path arguments ih =>
    intro rest hrest
    rw [pieces, itemPieces_eq]
    refine allRead_append.2 ⟨path.allRead_pieces ?_, isToken_symbol (by decide) _,
      allRead_append.2 ⟨readable_commaList (List.forall_mem_map.2 ih) _ ?_,
        isToken_symbol (by decide) _, trivial⟩⟩
    · exact (@separates_cons '<' (by decide) _).isWordPart
    · exact separates_cons (by decide) _
  | array element ih =>
    intro rest hrest
    exact allRead_append.2 ⟨ih _ (@separates_cons '[' (by decide) _),
      readable_bracketed .square readable_nil rest hrest⟩
  | index indexed key ihIndexed ihKey =>
    intro rest hrest
    exact allRead_append.2 ⟨ihIndexed _ (@separates_cons '[' (by decide) _),
      readable_bracketed .square ihKey rest hrest⟩
  | joined join left right ihLeft ihRight =>
    intro rest hrest
    exact allRead_append.2 ⟨ihLeft _ (@separates_cons ' ' (by decide) _),
      isToken_symbol join.sign_mem_symbols _, ihRight rest hrest⟩
  | function parameters result ihParameters ihResult =>
    intro rest hrest
    rw [pieces, fieldPieces_eq]
    refine allRead_append.2 ⟨readable_bracketed .paren (readable_commaList ?_) _ ?_,
      isToken_arrow _, ihResult rest hrest⟩
    · exact List.forall_mem_map.2 fun field hfield =>
        readable_piecesOfField (ihParameters field hfield)
    · exact @separates_cons ' ' (by decide) _
  | object fields closed ih =>
    rw [pieces, fieldPieces_eq]
    refine readable_bracketed .brace (readable_fieldList closed ?_)
    exact List.forall_mem_map.2 fun field hfield => readable_piecesOfField (ih field hfield)
  | tuple items ih =>
    rw [pieces, itemPieces_eq]
    exact readable_bracketed .square (readable_commaList (List.forall_mem_map.2 ih))
  | string literal => exact readable_quoted literal
  | integer digits => exact readable_number digits.number
  | operator word operand ih =>
    intro rest hrest
    exact ⟨isToken_word word.word (@separates_cons ' ' (by decide) _).isWordPart, ih rest hrest⟩

theorem nested_fieldList (closed : Bool) {fields : List (List Piece)}
    (hfields : ∀ field ∈ fields, Nested (kinds field)) :
    Nested (kinds (fieldList closed fields)) := by
  cases fields with
  | nil => exact .nil
  | cons field fields =>
    have hlist : Nested (kinds ([semicolon, space].intercalate (field :: fields))) :=
      kinds_intercalate .nil .append (.plain rfl .nil) hfields
    rw [fieldList, space, kinds_blank, kinds_append]
    refine hlist.append ?_
    cases closed with
    | false => exact .nil
    | true => exact .plain rfl .nil

theorem angleNested_commaList {items : List (List Piece)}
    (hitems : ∀ item ∈ items, AngleNested (kinds item)) : AngleNested (kinds (commaList items)) :=
  kinds_intercalate .nil .append (.plain rfl (by decide) .nil) hitems

theorem angleNested_bracketed (bracket : Bracket) {pieces : List Piece}
    (hpieces : Nested (kinds pieces)) : AngleNested (kinds (bracketed bracket pieces)) := by
  rw [bracketed, kinds_token, kinds_append]
  exact .group hpieces .nil

theorem angleNested_piecesOfField {field : Identifier × TypeExpr}
    (htype : AngleNested (kinds field.2.pieces)) : AngleNested (kinds (piecesOfField field)) :=
  .plain rfl (by decide) (.plain rfl (by decide) htype)

/-- Brackets of all sorts are matched within a type. -/
theorem angleNested_pieces (type : TypeExpr) : AngleNested (kinds type.pieces) := by
  induction type using induct with
  | name path => exact path.angleNested_pieces
  | generic path arguments ih =>
    rw [pieces, itemPieces_eq, kinds_append, kinds_token, kinds_append]
    exact path.angleNested_pieces.append
      (.angles (angleNested_commaList (List.forall_mem_map.2 ih)) .nil)
  | array element ih =>
    rw [pieces, kinds_append]
    exact ih.append (angleNested_bracketed .square .nil)
  | index indexed key ihIndexed ihKey =>
    rw [pieces, kinds_append]
    exact ihIndexed.append (angleNested_bracketed .square ihKey.nested)
  | joined join left right ihLeft ihRight =>
    rw [pieces, kinds_append]
    exact ihLeft.append (.plain rfl (by decide) ihRight)
  | function parameters result ihParameters ihResult =>
    have hparameters := angleNested_commaList (List.forall_mem_map.2 fun field hfield =>
      angleNested_piecesOfField (ihParameters field hfield))
    rw [pieces, fieldPieces_eq, kinds_append]
    exact (angleNested_bracketed .paren hparameters.nested).append (.plain rfl (by decide) ihResult)
  | object fields closed ih =>
    rw [pieces, fieldPieces_eq]
    refine angleNested_bracketed .brace (nested_fieldList closed (List.forall_mem_map.2 ?_))
    exact fun field hfield => (angleNested_piecesOfField (ih field hfield)).nested
  | tuple items ih =>
    rw [pieces, itemPieces_eq]
    exact angleNested_bracketed .square (angleNested_commaList (List.forall_mem_map.2 ih)).nested
  | string literal =>
    refine .plain ?_ ?_ .nil <;> cases literal.quote <;> decide
  | integer digits => exact .plain rfl (by decide) .nil
  | operator word operand ih => exact .plain rfl (by decide) ih

theorem angleNested_items (items : List TypeExpr) :
    AngleNested (kinds (commaList (itemPieces items))) := by
  rw [itemPieces_eq]
  exact angleNested_commaList (List.forall_mem_map.2 fun item _ => item.angleNested_pieces)

theorem nested_parameters (parameters : List (Identifier × TypeExpr)) :
    Nested (kinds (commaList (fieldPieces parameters))) := by
  rw [fieldPieces_eq]
  exact (angleNested_commaList (List.forall_mem_map.2 fun parameter _ =>
    angleNested_piecesOfField parameter.2.angleNested_pieces)).nested

theorem nested_fields (fields : List (Identifier × TypeExpr)) (closed : Bool) :
    Nested (kinds (fieldList closed (fieldPieces fields))) := by
  rw [fieldPieces_eq]
  exact nested_fieldList closed (List.forall_mem_map.2 fun field _ =>
    (angleNested_piecesOfField field.2.angleNested_pieces).nested)

theorem endsSolid_pieces (type : TypeExpr) : EndsSolid type.pieces := by
  induction type using induct with
  | name path => exact path.endsSolid_pieces
  | generic path arguments =>
    exact (((endsSolid_token rfl _).append _).cons _).append _
  | array element => exact (endsSolid_bracketed .square []).append _
  | index indexed key => exact (endsSolid_bracketed .square key.pieces).append _
  | joined join left right _ ihRight => exact (((ihRight.cons _).cons _).cons _).append _
  | function parameters result _ ihResult => exact (((ihResult.cons _).cons _).cons _).append _
  | object fields closed => exact endsSolid_bracketed .brace _
  | tuple items => exact endsSolid_bracketed .square _
  | string literal =>
    refine endsSolid_token ?_ _
    cases literal.quote <;> rfl
  | integer digits => exact endsSolid_token rfl _
  | operator word operand ih => exact (ih.cons _).cons _

/-- The first token of a type is no sign. -/
theorem exists_pieces (type : TypeExpr) :
    ∃ kind text others, type.pieces = .token kind text :: others ∧ kind ≠ .operator ∧
      kind ≠ .error := by
  induction type using induct with
  | name path => exact ⟨_, _, _, rfl, by decide, by decide⟩
  | generic path arguments => exact ⟨_, _, _, rfl, by decide, by decide⟩
  | array element ih =>
    obtain ⟨kind, text, others, hpieces, hkind⟩ := ih
    exact ⟨kind, text, _, by rw [pieces, hpieces]; rfl, hkind⟩
  | index indexed key ih =>
    obtain ⟨kind, text, others, hpieces, hkind⟩ := ih
    exact ⟨kind, text, _, by rw [pieces, hpieces]; rfl, hkind⟩
  | joined join left right ih =>
    obtain ⟨kind, text, others, hpieces, hkind⟩ := ih
    exact ⟨kind, text, _, by rw [pieces, hpieces]; rfl, hkind⟩
  | function parameters result => exact ⟨_, _, _, rfl, by decide, by decide⟩
  | object fields closed => exact ⟨_, _, _, rfl, by decide, by decide⟩
  | tuple items => exact ⟨_, _, _, rfl, by decide, by decide⟩
  | string literal =>
    refine ⟨literal.quote.kind, _, _, rfl, ?_⟩
    cases literal.quote <;> decide
  | integer digits => exact ⟨_, _, _, rfl, by decide, by decide⟩
  | operator word operand => exact ⟨_, _, _, rfl, by decide, by decide⟩

end TypeExpr

/-! ## Skipping -/

namespace Declaration

/-- Skips what may follow a part of a type: index suffixes, and parts that are joined to it. -/
def skipTypeTail (ts : List Terminal) : Except Fault (List Terminal) :=
  skipIndexes ts >>= fun after =>
    match after with
    | [] => .ok []
    | t :: rest => if t.isTypeJoin then skipTypeParts rest else .ok (t :: rest)

theorem skipTypeParts_eq_bind (ts : List Terminal) :
    skipTypeParts ts = skipTypePart ts >>= skipTypeTail :=
  skipTypeParts_eq ts

theorem skipTypeParts_of_part {ts rest : List Terminal} (h : skipTypePart ts = .ok rest) :
    skipTypeParts ts = skipTypeTail rest := by
  rw [skipTypeParts_eq_bind, h, ok_bind]

theorem skipTypeTail_join {t : Terminal} (hkind : t.kind ≠ .opening .square)
    (hjoin : t.isTypeJoin = true) (rest : List Terminal) :
    skipTypeTail (t :: rest) = skipTypeParts rest := by
  rw [skipTypeTail, skipIndexes_cons, if_neg fun h => hkind h.1, ok_bind]
  dsimp only
  rw [if_pos hjoin]

/-- A name is not followed by what would go on with it: a qualifier, type arguments or a test. -/
def EndsTypeName (ts : List Terminal) : Prop :=
  ∀ t ∈ ts.head?, t.kind ≠ .dot ∧ t.kind ≠ .less ∧ t.isWord "is" = false

theorem endsTypeName_cons {t : Terminal} {rest : List Terminal}
    (h : t.kind ≠ .dot ∧ t.kind ≠ .less ∧ t.isWord "is" = false) : EndsTypeName (t :: rest) := by
  rintro _ ⟨⟩
  exact h

theorem EndsTypeName.startsWith_dot {ts : List Terminal} (h : EndsTypeName ts) :
    startsWith .dot ts = false := by
  cases ts with
  | nil => rfl
  | cons t rest => exact beq_eq_false_iff_ne.2 (h t rfl).1

theorem EndsTypeName.skipOptionalAngles {ts : List Terminal} (h : EndsTypeName ts) :
    skipOptionalAngles ts = .ok ts := by
  cases ts with
  | nil => rfl
  | cons t rest => rw [Declaration.skipOptionalAngles, if_neg (h t rfl).2.1]

end Declaration

namespace Cursor

theorem endsTypeName_terminal (cursor : Cursor) {kind : Kind} (hkind : kind ∉ [.dot, .less, .word])
    (text : List Char) (rest : List Terminal) :
    EndsTypeName (cursor.terminal kind text :: rest) := by
  simp only [List.mem_cons, List.not_mem_nil, or_false, not_or] at hkind
  obtain ⟨hdot, hless, hword⟩ := hkind
  refine endsTypeName_cons ⟨hdot, hless, ?_⟩
  rw [isWord, kind_terminal, beq_eq_false_iff_ne.2 hword, Bool.false_and]

theorem endsTypeName_bracketed (cursor : Cursor) (pieces : List Piece) (rest : List Terminal) :
    EndsTypeName (cursor.lay (bracketed .square pieces) ++ rest) := by
  rw [lay_bracketed]
  exact cursor.endsTypeName_terminal (by decide) _ _

theorem skipQualifiers_lay (qualifiers : List Identifier) (cursor : Cursor)
    (rest : List Terminal) :
    skipQualifiers (cursor.lay (TypePath.qualifierPieces qualifiers) ++ rest) =
      skipQualifiers rest := by
  induction qualifiers generalizing cursor with
  | nil => rfl
  | cons name qualifiers ih =>
    rw [TypePath.qualifierPieces_cons, Piece.word, lay, lay, List.cons_append, List.cons_append,
      skipQualifiers_cons, kind_terminal, if_pos rfl]
    dsimp only
    rw [kind_terminal, if_pos rfl]
    exact ih _

/-- A name is passed up to what follows it, if that is no test. -/
theorem skipTypePart_path (path : TypePath) (cursor : Cursor) {rest after : List Terminal}
    (hdot : startsWith .dot rest = false) (hangles : skipOptionalAngles rest = .ok after)
    (hafter : EndsTypeName after) :
    skipTypePart (cursor.lay path.pieces ++ rest) = .ok after := by
  have hqualifiers : skipQualifiers rest = .ok rest := by
    cases rest with
    | nil => rfl
    | cons t rest => rw [skipQualifiers_cons, if_neg (beq_eq_false_iff_ne.1 hdot)]
  have hoperator : typeOperators.contains path.head.text = false :=
    Bool.eq_false_iff.2 fun h => path.head_not_mem (List.contains_iff_mem.1 h)
  rw [TypePath.pieces, Piece.word, lay, List.cons_append, skipTypePart_cons, kind_terminal,
    text_terminal, Identifier.ofList_chars, hoperator, skipTypeName, skipQualifiers_lay,
    hqualifiers, ok_bind, hangles]
  cases after with
  | nil => rfl
  | cons t after =>
    obtain ⟨-, -, his⟩ := hafter t rfl
    simp [his]

theorem skipTypePart_bracketed (bracket : Bracket) {pieces : List Piece}
    (hpieces : Nested (kinds pieces)) (cursor : Cursor) (rest : List Terminal) :
    skipTypePart (cursor.lay (bracketed bracket pieces) ++ rest) = .ok rest := by
  rw [lay_bracketed, List.cons_append, List.append_assoc, List.singleton_append, skipTypePart_cons,
    kind_terminal]
  refine skipGroup_nested _ ?_ (kind_terminal _ _ _) rest
  rw [map_kind_lay]
  exact hpieces

/-- Brackets behind a type, on its line. -/
theorem skipTypeTail_bracketed {pieces : List Piece} (hpieces : Nested (kinds pieces))
    {cursor : Cursor} (hcursor : cursor.newline = false) (rest : List Terminal) :
    skipTypeTail (cursor.lay (bracketed .square pieces) ++ rest) = skipTypeTail rest := by
  have hgroup : ∀ opener closer : Terminal, ∀ next : Cursor, closer.kind = .closing .square →
      skipGroup opener .square (next.lay pieces ++ closer :: rest) = .ok rest := by
    intro opener closer next hcloser
    refine skipGroup_nested opener ?_ hcloser rest
    rw [map_kind_lay]
    exact hpieces
  rw [skipTypeTail, lay_bracketed, List.cons_append, List.append_assoc, List.singleton_append,
    skipIndexes_cons, if_pos ⟨rfl, hcursor⟩, hgroup _ _ _ (kind_terminal _ _ _), ok_bind]
  rfl

/-- Behind a type, skipping goes on as behind any of its parts. -/
theorem skipTypeParts_lay (type : TypeExpr) (cursor : Cursor) {rest : List Terminal}
    (hrest : EndsTypeName rest) :
    skipTypeParts (cursor.lay type.pieces ++ rest) = skipTypeTail rest := by
  -- What follows stays open in the induction: behind a smaller type it is a sign or a bracket of
  -- the larger one.
  induction type using TypeExpr.induct generalizing cursor rest with
  | name path =>
    exact skipTypeParts_of_part
      (skipTypePart_path path cursor hrest.startsWith_dot hrest.skipOptionalAngles hrest)
  | generic path arguments =>
    rw [TypeExpr.pieces, lay_append, List.append_assoc]
    refine skipTypeParts_of_part (skipTypePart_path path cursor rfl ?_ hrest)
    rw [lay, lay_append, List.cons_append, List.append_assoc, lay, lay, List.singleton_append,
      skipOptionalAngles, kind_terminal, if_pos rfl, skipAngles, closeAngles_nested,
      closeAngles_cons, kind_terminal, if_neg (by decide), if_pos rfl, closeAngles]
    rw [map_kind_lay]
    exact TypeExpr.angleNested_items arguments
  | array element ih =>
    rw [TypeExpr.pieces, lay_append, List.append_assoc, ih cursor (endsTypeName_bracketed _ _ _),
      @skipTypeTail_bracketed [] .nil _ (newline_passAll element.endsSolid_pieces cursor)]
  | index indexed key ih =>
    rw [TypeExpr.pieces, lay_append, List.append_assoc, ih cursor (endsTypeName_bracketed _ _ _),
      skipTypeTail_bracketed key.angleNested_pieces.nested
        (newline_passAll indexed.endsSolid_pieces cursor)]
  | joined join left right ihLeft ihRight =>
    rw [TypeExpr.pieces, lay_append, List.append_assoc, Piece.space, lay, lay, lay,
      List.cons_append, ihLeft cursor (endsTypeName_terminal _ (by decide) _ _),
      skipTypeTail_join (by rw [kind_terminal]; decide) (by cases join <;> rfl), ihRight _ hrest]
  | function parameters result _ ihResult =>
    rw [TypeExpr.pieces, lay_append, List.append_assoc, Piece.space, lay, lay, lay,
      List.cons_append, skipTypeParts_of_part
        (skipTypePart_bracketed .paren (TypeExpr.nested_parameters parameters) cursor _),
      skipTypeTail_join (by rw [kind_terminal]; decide) rfl, ihResult _ hrest]
  | object fields closed =>
    exact skipTypeParts_of_part
      (skipTypePart_bracketed .brace (TypeExpr.nested_fields fields closed) cursor rest)
  | tuple items =>
    exact skipTypeParts_of_part
      (skipTypePart_bracketed .square (TypeExpr.angleNested_items items).nested cursor rest)
  | string literal =>
    refine skipTypeParts_of_part ?_
    rw [TypeExpr.pieces, Piece.quoted, lay, lay, List.singleton_append, skipTypePart_cons,
      kind_terminal]
    cases literal.quote <;> rfl
  | integer digits =>
    refine skipTypeParts_of_part ?_
    rw [TypeExpr.pieces, Piece.number, lay, lay, List.singleton_append, skipTypePart_cons,
      kind_terminal]
  | operator word operand ih =>
    have hoperator : typeOperators.contains word.word.text = true :=
      List.contains_iff_mem.2 word.text_mem
    rw [TypeExpr.pieces, Piece.word, Piece.space, lay, lay, List.cons_append,
      skipTypeParts_eq_bind, skipTypePart_cons, kind_terminal, text_terminal,
      Identifier.ofList_chars, hoperator]
    exact (skipTypeParts_eq_bind _).symm.trans (ih _ hrest)

/-- A type is skipped up to a terminal that does not go on with it. -/
theorem skipType_lay (type : TypeExpr) (cursor : Cursor) {t : Terminal}
    (hname : EndsTypeName [t]) (hindex : ¬(t.kind = .opening .square ∧ t.newlineBefore = false))
    (hjoin : t.isTypeJoin = false) (rest : List Terminal) :
    skipType (cursor.lay type.pieces ++ t :: rest) = .ok (t :: rest) := by
  obtain ⟨kind, text, others, hpieces, hoperator, -⟩ := type.exists_pieces
  have hparts := skipTypeParts_lay type cursor (@endsTypeName_cons t rest (hname t rfl))
  have hfirst : ∀ sign, (cursor.terminal kind text).isOperator sign = false := by
    intro sign
    rw [isOperator, kind_terminal, beq_eq_false_iff_ne.2 hoperator, Bool.false_and]
  rw [hpieces, lay, List.cons_append] at hparts ⊢
  rw [skipType, hfirst, hfirst]
  simp only [Bool.or_self, Bool.false_eq_true, if_false]
  rw [hparts, skipTypeTail, skipIndexes_cons, if_neg hindex, ok_bind]
  dsimp only
  rw [hjoin]
  rfl

theorem capture_type (type : TypeExpr) (cursor : Cursor) (more : List Terminal) :
    capture (cursor.lay type.pieces ++ more) more = type.print := by
  obtain ⟨kind, text, others, hpieces, -, herror⟩ := type.exists_pieces
  have hread := type.readable_pieces [] separates_nil
  have hends := type.endsSolid_pieces
  rw [TypeExpr.print]
  rw [hpieces] at hread hends ⊢
  rw [capture_lay, trim_printAll herror hread hends]

end Cursor

end ComponentDocs
