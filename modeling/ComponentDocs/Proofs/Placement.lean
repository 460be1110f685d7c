import Mathlib.Data.List.Nodup
import ComponentDocs.Proofs.Brackets
import ComponentDocs.Proofs.Captured
import ComponentDocs.Proofs.Token.Layout

/-!
# Where declarations stand

A doc block belongs to the declaration directly behind it.  The parser finds the block by looking
back from wherever it stands after the skipping of statements, bodies and semicolons, so this says
something about every place where it stops.

`Stands place d` describes the place of a declaration by what is written there: decorators and
certain words, then the word `class` with a name or the name of a member; the line and the doc
block are those of its first terminal.  `Placed ts ds after` says that the declarations `ds` are
found one after the other between two places.  There is one lemma for each parser on the way from a
decorator to a file, and `parse_placed` turns the places into positions.
-/

namespace ComponentDocs

/-- A declaration that is reported: a class, or a member of the class before it. -/
inductive Reported where
  | classDecl (decl : ClassDecl)
  | member (member : Member)

/-- A class followed by its members. -/
def ClassDecl.reported (decl : ClassDecl) : List Reported :=
  .classDecl decl :: decl.members.map .member

/-- The declarations of a file in order. -/
def SourceFile.reported (file : SourceFile) : List Reported :=
  file.classes.flatMap ClassDecl.reported

/-- A suffix that is not the whole list is a suffix of the tail. -/
theorem suffix_tail {α : Type} {xs ys : List α} (h : xs <:+ ys) (hlt : xs.length < ys.length) :
    xs <:+ ys.tail := by
  cases ys with
  | nil => exact absurd hlt (Nat.not_lt_zero _)
  | cons y ys =>
    rcases List.suffix_cons_iff.1 h with rfl | h
    · exact absurd hlt (Nat.lt_irrefl _)
    · exact h

/-! ## What stands at the place of a declaration -/

namespace Terminal

def IsWordOf (words : List String) (t : Terminal) : Prop :=
  t.kind = .word ∧ t.text ∈ words

/-- The source text of a piece, trimmed. -/
def written (piece : List Terminal) : String :=
  String.ofList (Text.trim (spelling piece))

/-- Brackets of this kind around nested ones. -/
def IsGroup (bracket : Bracket) (piece : List Terminal) : Prop :=
  ∃ opener inner closer, piece = opener :: (inner ++ [closer]) ∧ opener.kind = .opening bracket ∧
    closer.kind = .closing bracket ∧ Nested (inner.map kind)

/-- Words with dots between them, the last of which is `last`. -/
inductive IsDotted (last : String) : List Terminal → Prop
  | word {t : Terminal} (hword : t.kind = .word) (htext : t.text = last) : IsDotted last [t]
  | dot {t dot : Terminal} {piece : List Terminal} (hword : t.kind = .word) (hdot : dot.kind = .dot)
      (hpiece : IsDotted last piece) : IsDotted last (t :: dot :: piece)

/-- The decorator is an at sign, a dotted name and optional arguments in parentheses. -/
def IsDecorator (decorator : Decorator) (piece : List Terminal) : Prop :=
  ∃ sign name arguments, piece = sign :: (name ++ arguments) ∧ sign.kind = .atSign ∧
    IsDotted decorator.name name ∧ (arguments = [] ∨ IsGroup .paren arguments) ∧
    decorator.text = written piece

/-- From the first place up to the second one stand these decorators in order, and besides them only
terminals that are allowed there. -/
inductive Heads (allowed : Terminal → Prop) : List Terminal → List Decorator → List Terminal → Prop
  | refl (ts : List Terminal) : Heads allowed ts [] ts
  | decorator {piece rest after : List Terminal} {decorator : Decorator}
      {decorators : List Decorator} (hpiece : IsDecorator decorator piece)
      (hrest : Heads allowed rest decorators after) :
      Heads allowed (piece ++ rest) (decorator :: decorators) after
  | cons {t : Terminal} {rest after : List Terminal} {decorators : List Decorator}
      (ht : allowed t) (hrest : Heads allowed rest decorators after) :
      Heads allowed (t :: rest) decorators after

/-- A word that may stand before the word `class`. -/
def MayPrecedeClass (t : Terminal) : Prop :=
  t.IsWordOf ["export", "default", "declare", "abstract"]

/-- A terminal that may stand before the name of a member. -/
def MayPrecedeName (t : Terminal) : Prop :=
  t.kind = .star ∨ t.IsWordOf (Declaration.modifierWords ++ ["get", "set"])

/-- The ways to write the name of a member. -/
inductive IsMemberName : List Terminal → String → Prop
  | plain {t : Terminal} (hkind : t.kind = .word ∨ t.kind = .number) : IsMemberName [t] t.text
  | quoted {t : Terminal} (hkind : t.kind = .string) :
      IsMemberName [t] (Declaration.unquote t.text)
  | privateName {hash t : Terminal} (hhash : hash.kind = .hash) (hword : t.kind = .word) :
      IsMemberName [hash, t] ("#" ++ t.text)
  | computed {piece : List Terminal} (hpiece : IsGroup .square piece) :
      IsMemberName piece (written piece)

/-- The last doc block among the comments, as written. -/
def lastDocBlock (comments : List Token) : Option String :=
  (comments.filter Token.isDocBlock).getLast?.map Token.text

/-- The declaration is written here, and its line and doc block are those of the first
terminal. -/
def Stands (place : List Terminal) : Reported → Prop
  | .classDecl decl =>
    (∃ start rest, place = start :: rest ∧ decl.line = start.line ∧
        decl.doc = lastDocBlock start.comments) ∧
      ∃ keyword name rest, Heads MayPrecedeClass place decl.decorators (keyword :: name :: rest) ∧
        keyword.isWord "class" = true ∧ name.kind = .word ∧ name.text = decl.name
  | .member member =>
    (∃ start rest, place = start :: rest ∧ member.doc = lastDocBlock start.comments) ∧
      ∃ name rest, Heads MayPrecedeName place member.decorators (name ++ rest) ∧
        IsMemberName name member.name

theorem doc_eq_lastDocBlock (t : Terminal) : t.doc = lastDocBlock t.comments := by
  rw [doc, lastDocBlock, ← List.head?_filter, List.filter_reverse, List.head?_reverse]

variable {allowed : Terminal → Prop} {t : Terminal} {ts rest middle after : List Terminal}

theorem Heads.trans {decorators more : List Decorator} (h : Heads allowed ts decorators middle)
    (h' : Heads allowed middle more after) : Heads allowed ts (decorators ++ more) after := by
  induction h with
  | refl => exact h'
  | decorator hpiece hrest ih => exact .decorator hpiece (ih h')
  | cons ht hrest ih => exact .cons ht (ih h')

theorem Heads.suffix {decorators : List Decorator} (h : Heads allowed ts decorators after) :
    after <:+ ts := by
  induction h with
  | refl => exact List.suffix_rfl
  | decorator hpiece hrest ih => exact ih.trans (List.suffix_append _ _)
  | cons ht hrest ih => exact ih.trans (List.suffix_cons _ _)

theorem Closes.exists_group {bracket : Bracket} (hopening : t.kind = .opening bracket)
    (h : Closes bracket rest after) :
    ∃ piece, t :: rest = piece ++ after ∧ IsGroup bracket piece := by
  obtain ⟨closer, hclosing, inner, rfl, hinner⟩ := h
  exact ⟨t :: (inner ++ [closer]), by simp, t, inner, closer, rfl, hopening, hclosing, hinner⟩

theorem capture_eq_written {piece : List Terminal} (h : ts = piece ++ after) :
    capture ts after = written piece := by
  rw [h, capture_left, written]

/-! ## Declarations one after the other -/

/-- Between the two places the declarations stand one after the other, each at a later place than
the one before it. -/
inductive Placed : List Terminal → List Reported → List Terminal → Prop
  | nil {ts after : List Terminal} (h : after <:+ ts) : Placed ts [] after
  | cons {ts place after : List Terminal} {d : Reported} {ds : List Reported}
      (hplace : place <:+ ts) (hd : Stands place d) (hds : Placed place.tail ds after) :
      Placed ts (d :: ds) after

variable {ds more : List Reported}

theorem Placed.of_suffix (hrest : rest <:+ ts) (h : Placed rest ds after) : Placed ts ds after := by
  cases h with
  | nil h => exact .nil (h.trans hrest)
  | cons hplace hd hds => exact .cons (hplace.trans hrest) hd hds

theorem Placed.append (h : Placed ts ds middle) (h' : Placed middle more after) :
    Placed ts (ds ++ more) after := by
  induction h with
  | nil hsuffix => exact h'.of_suffix hsuffix
  | cons hplace hd hds ih => exact .cons hplace hd (ih h')

/-- The places are positions in the list of all terminals. -/
theorem Placed.exists_positions {whole : List Terminal} {k : Nat}
    (h : Placed (whole.drop k) ds after) :
    ∃ positions : List Nat, (∀ p ∈ positions, k ≤ p) ∧ positions.Pairwise (· < ·) ∧
      List.Forall₂ (fun p d => Stands (whole.drop p) d) positions ds := by
  generalize hts : whole.drop k = ts at h
  induction h generalizing k with
  | nil => exact ⟨[], by simp, .nil, .nil⟩
  | @cons ts place after d ds hplace hd hds ih =>
    rw [List.suffix_iff_eq_drop, ← hts, List.drop_drop] at hplace
    generalize (whole.drop k).length - place.length = n at hplace
    have htail : whole.drop (k + n + 1) = place.tail := by rw [hplace, List.tail_drop]
    obtain ⟨positions, hlater, hordered, hstands⟩ := ih htail
    refine ⟨(k + n) :: positions, ?_, .cons (fun p hp => hlater p hp) hordered,
      .cons (hplace ▸ hd) hstands⟩
    intro p hp
    rcases List.mem_cons.1 hp with rfl | hp
    · exact Nat.le_add_right k n
    · have hle := hlater p hp
      omega

end Terminal

namespace Declaration

open Terminal

variable {ts after : List Terminal}

/-! ## Headings -/

theorem parseDecoratorName_dotted {name : String} (h : parseDecoratorName ts = .ok (name, after)) :
    ∃ piece, ts = piece ++ after ∧ IsDotted name piece := by
  fun_induction parseDecoratorName ts with
  | case1 => cases h
  | case2 first hword =>
    cases h
    exact ⟨[first], rfl, .word hword rfl⟩
  | case3 first hword dot rest hdot ih =>
    obtain ⟨piece, rfl, hpiece⟩ := ih h
    exact ⟨first :: dot :: piece, rfl, .dot hword hdot hpiece⟩
  | case4 first hword =>
    cases h
    exact ⟨[first], rfl, .word hword rfl⟩
  | case5 => cases h

theorem parseOptionalArguments_group {arguments : List Expr}
    (h : parseOptionalArguments ts = .ok (arguments, after)) :
    ∃ piece, ts = piece ++ after ∧ (piece = [] ∨ IsGroup .paren piece) := by
  unfold parseOptionalArguments at h
  split at h
  · cases h
    exact ⟨[], rfl, .inl rfl⟩
  · split at h
    · rename_i hopening
      rw [parseArguments_eq] at h
      obtain ⟨piece, hsplit, hpiece⟩ := (parseItems_closes h).exists_group hopening
      exact ⟨piece, hsplit, .inr hpiece⟩
    · cases h
      exact ⟨[], rfl, .inl rfl⟩

theorem parseDecorator_isDecorator {sign : Terminal} {decorator : Decorator}
    (hsign : sign.kind = .atSign) (h : parseDecorator sign ts = .ok (decorator, after)) :
    ∃ piece, sign :: ts = piece ++ after ∧ IsDecorator decorator piece := by
  obtain ⟨⟨name, afterName⟩, hname, h⟩ := bind_eq_ok_iff.1 h
  obtain ⟨⟨arguments, final⟩, harguments, h⟩ := bind_eq_ok_iff.1 h
  cases h
  obtain ⟨dotted, rfl, hdotted⟩ := parseDecoratorName_dotted hname
  obtain ⟨group, rfl, hgroup⟩ := parseOptionalArguments_group harguments
  have hsplit : sign :: (dotted ++ (group ++ after)) = sign :: (dotted ++ group) ++ after := by simp
  exact ⟨sign :: (dotted ++ group), hsplit, sign, dotted, group, rfl, hsign, hdotted, hgroup,
    capture_eq_written hsplit⟩

theorem parseDecorators_heads (allowed : Terminal → Prop) {decorators : List Decorator}
    (h : parseDecorators ts = .ok (decorators, after)) : Heads allowed ts decorators after := by
  fun_induction parseDecorators ts generalizing decorators with
  | case1 => cases h; exact .refl _
  | case2 => cases h
  | case3 => cases h
  | case4 t rest hsign decorator next hdecorator others final hothers ih =>
    cases h
    obtain ⟨piece, hsplit, hpiece⟩ := parseDecorator_isDecorator hsign hdecorator
    rw [hsplit]
    exact .decorator hpiece (ih hothers)
  | case5 => cases h; exact .refl _

theorem isWordOf_of_isWord_or {t : Terminal} {word other : String} {words : List String}
    (h : (t.isWord word || t.isWord other) = true) (hwords : [word, other] ⊆ words) :
    t.IsWordOf words := by
  rcases Bool.or_eq_true_iff.1 h with h | h
  · obtain ⟨hkind, htext⟩ := Bool.and_eq_true_iff.1 h
    exact ⟨beq_iff_eq.1 hkind, hwords (by simp [beq_iff_eq.1 htext])⟩
  · obtain ⟨hkind, htext⟩ := Bool.and_eq_true_iff.1 h
    exact ⟨beq_iff_eq.1 hkind, hwords (by simp [beq_iff_eq.1 htext])⟩

theorem skipExportWords_heads (ts : List Terminal) :
    Heads MayPrecedeClass ts [] (skipExportWords ts) := by
  fun_induction skipExportWords ts with
  | case1 => exact .refl _
  | case2 t rest hwords ih => exact .cons (isWordOf_of_isWord_or hwords (by simp)) ih
  | case3 t rest _ hwords ih =>
    exact .cons (isWordOf_of_isWord_or (Bool.and_eq_true_iff.1 hwords).1 (by simp)) ih
  | case4 => exact .refl _

theorem parsePreamble_heads {decorators : List Decorator}
    (h : parsePreamble ts = .ok (decorators, after)) :
    Heads MayPrecedeClass ts decorators after := by
  obtain ⟨⟨before, afterBefore⟩, hbefore, h⟩ := bind_eq_ok_iff.1 h
  obtain ⟨⟨behind, final⟩, hbehind, h⟩ := bind_eq_ok_iff.1 h
  cases h
  have hwords := (skipExportWords_heads afterBefore).trans (parseDecorators_heads _ hbehind)
  exact (parseDecorators_heads _ hbefore).trans hwords

theorem parseModifiers_heads (modifiers : Modifiers) (ts : List Terminal) :
    Heads MayPrecedeName ts [] (parseModifiers modifiers ts).2 := by
  fun_induction parseModifiers modifiers ts with
  | case1 => exact .refl _
  | case2 modifiers t rest hword ih =>
    rw [Bool.and_eq_true_iff, Bool.and_eq_true_iff, beq_iff_eq, List.contains_iff_mem] at hword
    exact .cons (.inr ⟨hword.1.1, List.mem_append_left _ hword.1.2⟩) ih
  | case3 => exact .refl _

theorem skipOptional_star_heads (ts : List Terminal) :
    Heads MayPrecedeName ts [] (skipOptional .star ts) := by
  fun_cases skipOptional .star ts with
  | case1 => exact .refl _
  | case2 t rest hstar => exact .cons (.inl hstar) (.refl rest)
  | case3 => exact .refl _

theorem parseMemberKind_heads (ts : List Terminal) :
    Heads MayPrecedeName ts [] (parseMemberKind ts).2 := by
  fun_cases parseMemberKind ts with
  | case1 => exact .refl _
  | case2 t rest haccessor =>
    have hwords := (Bool.and_eq_true_iff.1 haccessor).1
    exact .cons (.inr (isWordOf_of_isWord_or hwords (List.subset_append_right _ _))) (.refl rest)
  | case3 => exact .refl _
  | case4 => exact .refl _
  | case5 => exact .refl _

/-! ## Members -/

theorem parseMemberName_isMemberName {name : String × Bool}
    (h : parseMemberName ts = .ok (name, after)) :
    ∃ piece, ts = piece ++ after ∧ IsMemberName piece name.1 := by
  cases ts with
  | nil => cases h
  | cons t rest =>
    rw [parseMemberName_cons] at h
    split at h
    · rename_i hword
      cases h
      exact ⟨[t], rfl, .plain (.inl hword)⟩
    · rename_i hnumber
      cases h
      exact ⟨[t], rfl, .plain (.inr hnumber)⟩
    · rename_i hstring
      cases h
      exact ⟨[t], rfl, .quoted hstring⟩
    · rename_i hhash
      split at h
      · cases h
      · rename_i word behind
        split at h
        · rename_i hword
          cases h
          exact ⟨[t, word], rfl, .privateName hhash hword⟩
        · cases h
    · rename_i hopening
      obtain ⟨final, hgroup, h⟩ := bind_eq_ok_iff.1 h
      cases h
      obtain ⟨piece, hsplit, hpiece⟩ := (skipGroup_closes hgroup).exists_group hopening
      refine ⟨piece, hsplit, ?_⟩
      rw [capture_eq_written hsplit]
      exact .computed hpiece
    · cases h

/-- A member stands where its reading starts. -/
theorem parseMember_stands {member : Member} (h : parseMember ts = .ok (some member, after)) :
    Stands ts (.member member) := by
  have hlt := (parseMember_suffix h).2
  obtain ⟨⟨decorators, afterDecorators⟩, hdecorators, h⟩ := bind_eq_ok_iff.1 h
  dsimp only at h
  unfold parseUndecorated at h
  split at h
  · obtain ⟨final, -, h⟩ := bind_eq_ok_iff.1 h
    cases h
  · obtain ⟨⟨⟨name, isPrivateName⟩, afterName⟩, hname, h⟩ := bind_eq_ok_iff.1 h
    obtain ⟨⟨⟨kind, type⟩, final⟩, hsignature, h⟩ := bind_eq_ok_iff.1 h
    cases h
    obtain ⟨piece, hsplit, hpiece⟩ := parseMemberName_isMemberName hname
    -- Between the decorators and the name: modifier words, a star, and `get` or `set`.
    have hwords : Heads MayPrecedeName afterDecorators [] (piece ++ afterName) := by
      rw [← hsplit]
      exact (parseModifiers_heads .none afterDecorators).trans
        ((skipOptional_star_heads _).trans (parseMemberKind_heads _))
    have hheads := (parseDecorators_heads MayPrecedeName hdecorators).trans hwords
    rw [List.append_nil] at hheads
    refine ⟨?_, piece, afterName, hheads, hpiece⟩
    cases ts with
    | nil => exact absurd hlt (Nat.not_lt_zero _)
    | cons start rest => exact ⟨start, rest, rfl, doc_eq_lastDocBlock start⟩

theorem parseMembers_placed {opener : Terminal} {members : List Member}
    (h : parseMembers opener ts = .ok (members, after)) :
    Placed ts (members.map .member) after := by
  fun_induction parseMembers opener ts generalizing members with
  | case1 => cases h
  | case2 t rest _ ih => exact (ih h).of_suffix (List.suffix_cons t rest)
  | case3 t => cases h; exact .nil (List.suffix_cons t _)
  | case4 => cases h
  | case5 => cases h
  | case6 t rest _ _ member next hmember others final hothers ih =>
    cases h
    obtain ⟨hsuffix, hlt⟩ := parseMember_suffix hmember
    cases member with
    | none => exact (ih hothers).of_suffix hsuffix
    | some member =>
      exact .cons List.suffix_rfl (parseMember_stands hmember)
        ((ih hothers).of_suffix (suffix_tail hsuffix hlt))

theorem parseBody_placed {members : List Member} (h : parseBody ts = .ok (members, after)) :
    Placed ts (members.map .member) after := by
  obtain ⟨body, hinterfaces, h⟩ := bind_eq_ok_iff.1 h
  split at h
  · cases h
  · rename_i t rest
    split at h
    · exact (parseMembers_placed h).of_suffix
        ((List.suffix_cons t rest).trans (skipInterfaces_suffix hinterfaces))
    · cases h

/-! ## Classes -/

theorem parseClassName_some {name : String} (h : (parseClassName ts).1 = some name) :
    ∃ t rest, ts = t :: rest ∧ t.kind = .word ∧ t.text = name := by
  unfold parseClassName at h
  split at h
  · cases h
  · rename_i t rest
    split at h
    · rename_i hword
      cases h
      rw [Bool.and_eq_true_iff, Bool.and_eq_true_iff] at hword
      exact ⟨t, rest, rfl, beq_iff_eq.1 hword.1.1, rfl⟩
    · cases h

theorem parseHeader_name {header : Option String × Heritage}
    (h : parseHeader ts = .ok (header, after)) : (parseClassName ts).1 = header.1 := by
  unfold parseHeader at h
  obtain ⟨afterAngles, -, h⟩ := bind_eq_ok_iff.1 h
  obtain ⟨⟨heritage, final⟩, -, h⟩ := bind_eq_ok_iff.1 h
  cases h
  rfl

/-- What is reported of a class: its name is the word at `ts`, and its members stand behind. -/
theorem value_parseClass_placed {line : Nat} {doc : Option String} {decorators : List Decorator}
    {decl : ClassDecl} (h : (parseClass line doc decorators ts).value = .ok (some decl, after)) :
    (∃ name rest, ts = name :: rest ∧ name.kind = .word ∧ name.text = decl.name) ∧
      decl.line = line ∧ decl.doc = doc ∧ decl.decorators = decorators ∧
      Placed ts (decl.members.map .member) after := by
  rw [value_parseClass] at h
  obtain ⟨⟨⟨name, heritage⟩, afterHeader⟩, hheader, h⟩ := bind_eq_ok_iff.1 h
  obtain ⟨⟨members, final⟩, hbody, h⟩ := bind_eq_ok_iff.1 h
  cases name with
  | none => cases h
  | some name =>
    cases h
    exact ⟨parseClassName_some (parseHeader_name hheader), rfl, rfl, rfl,
      (parseBody_placed hbody).of_suffix (parseHeader_suffix hheader)⟩

/-- A class stands where its declaration starts, and its members behind it. -/
theorem parseDeclaration_placed {start : Terminal} {rest : List Terminal} {decl : Option ClassDecl}
    (h : (parseDeclaration start rest).value = .ok (decl, after)) :
    Placed (start :: rest) (decl.toList.flatMap ClassDecl.reported) after := by
  cases decl with
  | none => exact .nil (parseDeclaration_suffix h)
  | some decl =>
    obtain ⟨decorators, place, hpreamble, hcases⟩ := parseDeclaration_cases h
    have hheads := parsePreamble_heads hpreamble
    rcases hcases with ⟨-, hnone, -⟩ | ⟨keyword, behind, rfl, hclass, hparsed⟩
    · cases hnone
    · obtain ⟨⟨name, behindName, rfl, hword, hname⟩, hline, hdoc, rfl, hmembers⟩ :=
        value_parseClass_placed hparsed
      have hbehind : name :: behindName <:+ rest :=
        suffix_tail ((List.suffix_cons keyword _).trans hheads.suffix) hheads.suffix.length_le
      rw [Option.toList_some, List.flatMap_singleton, ClassDecl.reported]
      refine .cons List.suffix_rfl ⟨⟨start, rest, rfl, hline, ?_⟩, ?_⟩ (hmembers.of_suffix hbehind)
      · rw [hdoc, doc_eq_lastDocBlock]
      · exact ⟨keyword, name, behindName, hheads, hclass, hword, hname⟩

theorem parseDeclarations_placed {ts : List Terminal} {classes : List ClassDecl}
    (h : (parseDeclarations ts).value = .ok classes) :
    Placed ts (classes.flatMap ClassDecl.reported) [] := by
  cases ts with
  | nil =>
    rw [parseDeclarations] at h
    cases h
    exact .nil List.suffix_rfl
  | cons start rest =>
    rw [value_parseDeclarations_cons] at h
    obtain ⟨⟨decl, next⟩, hdeclaration, h⟩ := bind_eq_ok_iff.1 h
    obtain ⟨others, hothers, rfl⟩ := map_eq_ok_iff.1 h
    have hshorter := parseDeclaration_length_lt hdeclaration
    rw [List.flatMap_append]
    exact (parseDeclaration_placed hdeclaration).append (parseDeclarations_placed hothers)
termination_by ts.length

end Declaration

/-! ## Tokens and terminals -/

namespace Terminal

/-- The terminals and the comments between them are the tokens in order, with the comments
`trailing` behind the last terminal. -/
structure Gathers (terminals : List Terminal) (trailing tokens : List Token) : Prop where
  tokens_eq : tokens = terminals.flatMap (fun t => t.comments ++ [t.token]) ++ trailing
  isComment_token : ∀ t ∈ terminals, t.token.kind.isComment = false
  isComment_comments : ∀ t ∈ terminals, ∀ comment ∈ t.comments, comment.kind.isComment = true
  isComment_trailing : ∀ comment ∈ trailing, comment.kind.isComment = true

theorem exists_gathers (tokens : List Token) :
    ∃ trailing, Gathers (ofTokens tokens) trailing tokens := by
  induction tokens with
  | nil => exact ⟨[], rfl, by simp [ofTokens], by simp [ofTokens], by simp⟩
  | cons token tokens ih =>
    obtain ⟨trailing, heq, htoken, hcomments, htrailing⟩ := ih
    rw [ofTokens]
    cases hcomment : token.kind.isComment with
    | false =>
      rw [if_neg Bool.false_ne_true]
      refine ⟨trailing, by rw [List.flatMap_cons, List.append_assoc, ← heq]; rfl, ?_, ?_, htrailing⟩
      · exact List.forall_mem_cons.2 ⟨hcomment, htoken⟩
      · exact List.forall_mem_cons.2 ⟨by simp, hcomments⟩
    | true =>
      rw [if_pos rfl]
      generalize ofTokens tokens = terminals at heq htoken hcomments
      cases terminals with
      | nil =>
        exact ⟨token :: trailing, by rw [heq]; rfl, by simp [attach], by simp [attach],
          List.forall_mem_cons.2 ⟨hcomment, htrailing⟩⟩
      | cons first rest =>
        rw [List.forall_mem_cons] at htoken hcomments
        refine ⟨trailing, by rw [heq]; rfl, ?_, ?_, htrailing⟩
        · exact List.forall_mem_cons.2 htoken
        · exact List.forall_mem_cons.2
            ⟨List.forall_mem_cons.2 ⟨hcomment, hcomments.1⟩, hcomments.2⟩

/-- Of different tokens each comment stands before one terminal at most. -/
theorem Gathers.disjoint_comments {terminals : List Terminal} {trailing tokens : List Token}
    (h : Gathers terminals trailing tokens) (hnodup : tokens.Nodup) :
    terminals.Pairwise fun t u => t.comments.Disjoint u.comments := by
  rw [h.tokens_eq] at hnodup
  have hpairwise := (List.nodup_flatMap.1 hnodup.of_append_left).2
  refine hpairwise.imp ?_
  intro t u hdisjoint comment ht hu
  exact hdisjoint (List.mem_append_left _ ht) (List.mem_append_left _ hu)

end Terminal

namespace Token

open Text

theorem nodup_scan (source : String) : (scan source).Nodup := by
  have hlaid : Laid 0 source.toList (scan source) := laid_scanFrom .start source.toList
  refine hlaid.pairwise_stop_le.imp_of_mem ?_
  rintro token other htoken - hle rfl
  exact absurd hle (Nat.not_le_of_lt (hlaid.offset_lt_stop htoken))

/-- A token is on the line that the text before it has come to. -/
theorem line_of_mem_scanFrom {context : Context} {cs : List Char} {token : Token}
    (h : token ∈ scanFrom context cs) :
    ∃ before after, cs = before ++ (token.text.toList ++ after) ∧
      token.offset = context.offset + byteSize before ∧
      token.line = context.line + countNewlines before := by
  induction context, cs using scan_induction with
  | blank context space hspace =>
    rw [scanFrom_blank hspace] at h
    cases h
  | token context space c body tail kind hspace hc hextent ih =>
    rw [scanFrom_token hspace hc hextent] at h
    rcases List.mem_cons.1 h with rfl | h
    · exact ⟨space, tail, by simp, rfl, rfl⟩
    · obtain ⟨before, after, rfl, hoffset, hline⟩ := ih h
      refine ⟨space ++ (c :: body ++ before), after, by simp, ?_, ?_⟩
      · rw [hoffset, Context.after_offset, byteSize_append, byteSize_append]
        omega
      · rw [hline, Context.after_line, countNewlines_append, countNewlines_append]
        omega

end Token

/-! ## Whole files -/

namespace SourceFile

open Terminal Declaration

/-- Every declaration that is reported has a place of its own among the tokens that are not
comments, further on than the place of the one before.  From its place up to the word `class`, or up
to the name of a member, there are only decorators, which are its own, and the words that may stand
there.  The line of a class is that of the token at its place, and the doc block of a declaration is
the last one among the comments directly before that token, which stand before no other token. -/
theorem parse_placed {name text : String} {file : SourceFile}
    (haccepted : (parse name text).value = .ok file) :
    (∀ token ∈ Token.scan text, ∃ before after,
        text.toList = before ++ (token.text.toList ++ after) ∧
        token.offset = Text.byteSize before ∧ token.line = Text.countNewlines before + 1) ∧
      ∃ terminals trailing, Gathers terminals trailing (Token.scan text) ∧
        terminals.Pairwise (fun t u => t.comments.Disjoint u.comments) ∧
        ∃ positions : List Nat, positions.Pairwise (· < ·) ∧
          List.Forall₂ (fun p d => Stands (terminals.drop p) d) positions file.reported := by
  constructor
  · intro token htoken
    obtain ⟨before, after, hsplit, hoffset, hline⟩ := Token.line_of_mem_scanFrom htoken
    exact ⟨before, after, hsplit, hoffset.trans (Nat.zero_add _), hline.trans (Nat.add_comm _ _)⟩
  · obtain ⟨classes, hclasses, rfl⟩ := value_parse_eq_ok_iff.1 haccepted
    obtain ⟨trailing, hgathers⟩ := exists_gathers (Token.scan text)
    obtain ⟨positions, -, hordered, hstands⟩ :=
      Placed.exists_positions (k := 0) (parseDeclarations_placed hclasses)
    exact ⟨_, trailing, hgathers, hgathers.disjoint_comments (Token.nodup_scan text), positions,
      hordered, hstands⟩

-- The nearest doc block counts, behind a semicolon and before a decorator too; those inside of a
-- body and before a statement do not.
theorem parse_placed_nearest :
    (parse "a.ts" ("/** header */ import a;\n/** first */ /** second */ // note\n" ++
        "@D('x') export class A \x7b\n; /** f */ @P static f = 1; /** late */\n" ++
        "get m() \x7b return /** inner */ 1 \x7d\n\x7d")).value =
        .ok ⟨"a.ts", [⟨"A", 3, some "/** second */", [⟨"D", "@D('x')", [.string "x"]⟩], none,
          [⟨.property, "f", ⟨none, true, false, false, false⟩, [⟨"P", "@P", []⟩], some "/** f */",
              none⟩,
            ⟨.accessor, "m", .none, [], some "/** late */", none⟩]⟩]⟩ ∧
      ∃ positions : List Nat, positions.Pairwise (· < ·) ∧ positions.length = 3 := by
  have haccepted : (parse "a.ts" ("/** header */ import a;\n/** first */ /** second */ // note\n" ++
      "@D('x') export class A \x7b\n; /** f */ @P static f = 1; /** late */\n" ++
      "get m() \x7b return /** inner */ 1 \x7d\n\x7d")).value =
      .ok ⟨"a.ts", [⟨"A", 3, some "/** second */", [⟨"D", "@D('x')", [.string "x"]⟩], none,
        [⟨.property, "f", ⟨none, true, false, false, false⟩, [⟨"P", "@P", []⟩], some "/** f */",
            none⟩,
          ⟨.accessor, "m", .none, [], some "/** late */", none⟩]⟩]⟩ := by
    decide +kernel
  obtain ⟨-, terminals, trailing, -, -, positions, hordered, hstands⟩ := parse_placed haccepted
  exact ⟨haccepted, positions, hordered, hstands.length_eq⟩

end SourceFile

end ComponentDocs
