import ComponentDocs.Proofs.Declaration.AlikeClass
import ComponentDocs.Proofs.Declaration.Terminal

/-!
# Comments and spacing

Comments and the space between tokens do not change what a source text declares, as long as tokens
that begin a line still do.  They show in doc blocks, in lines, and in the texts that are kept as
written: a decorator, a type, an expression that is no literal, and the name of a member in
brackets.

`Likeness.respaced` is the likeness of terminals that are the same token in other surroundings, and
`SourceFile.parse_of_skeleton_eq` says what it means for two texts.
-/

namespace ComponentDocs

/-- The tokens that are not comments, each with what parsing looks at. -/
def Token.skeleton (tokens : List Token) : List (Token.Kind × String × Bool) :=
  (tokens.filter fun token => !token.kind.isComment).map fun token =>
    (token.kind, token.text, token.newlineBefore)

namespace Terminal

/-- The same token in other surroundings. -/
structure Respaced (t u : Terminal) : Prop where
  kind : u.kind = t.kind
  text : u.text = t.text
  newlineBefore : u.newlineBefore = t.newlineBefore

theorem forall₂_respaced {tokens others : List Token}
    (h : Token.skeleton tokens = Token.skeleton others) :
    List.Forall₂ Respaced (ofTokens tokens) (ofTokens others) := by
  rw [Token.skeleton, Token.skeleton, ← map_token_ofTokens, ← map_token_ofTokens, List.map_map,
    List.map_map, ← List.forall₂_eq_eq_eq, List.forall₂_map_left_iff,
    List.forall₂_map_right_iff] at h
  refine h.imp fun t u heq => ?_
  simp only [Function.comp_apply, Prod.mk.injEq] at heq
  exact ⟨heq.1.symm, heq.2.1.symm, heq.2.2.symm⟩

/-- The same token in the same position of two files. -/
def RespacedIn (ts us : List Terminal) (t u : Terminal) : Prop :=
  Respaced t u ∧ ∃ k : Nat, ts[k]? = some t ∧ us[k]? = some u

/-- Two ways to write the same tokens of two files, of which the first is an opening square
bracket. -/
def SameBrackets (ts us : List Terminal) (text other : String) : Prop :=
  ∃ group group', startsWith (.opening .square) group = true ∧
    List.Forall₂ (RespacedIn ts us) group group' ∧
    text = String.ofList (Text.trim (spelling group)) ∧
    other = String.ofList (Text.trim (spelling group'))

theorem forall₂_respacedIn {ts us : List Terminal} (h : List.Forall₂ Respaced ts us) :
    List.Forall₂ (RespacedIn ts us) ts us := by
  induction h with
  | nil => exact .nil
  | cons ht _ ih =>
    refine .cons ⟨ht, 0, rfl, rfl⟩ (ih.imp ?_)
    rintro t u ⟨h, k, ht, hu⟩
    exact ⟨h, k + 1, ht, hu⟩

theorem capture_sameBrackets {ts us : List Terminal} {opener opener' : Terminal}
    {rest rest' after after' : List Terminal} (hkind : opener.kind = .opening .square)
    (hbefore : List.Forall₂ (RespacedIn ts us) (opener :: rest) (opener' :: rest'))
    (hafter : List.Forall₂ (RespacedIn ts us) after after') :
    capture (opener' :: rest') after' = capture (opener :: rest) after ∨
      SameBrackets ts us (capture (opener :: rest) after) (capture (opener' :: rest') after') := by
  rw [capture, capture, ← hbefore.length_eq, ← hafter.length_eq]
  have hgroup := List.forall₂_take ((opener :: rest).length - after.length) hbefore
  generalize (opener :: rest).length - after.length = n at hgroup
  cases n with
  | zero => exact .inl rfl
  | succ n =>
    refine .inr ⟨_, _, ?_, hgroup, rfl, rfl⟩
    rw [List.take_succ_cons, startsWith, hkind]
    rfl

end Terminal

/-! ## The structure that is left -/

/-- The expression without the texts that are kept as written. -/
def Expr.shape (expr : Expr) : Expr :=
  expr.mapOther fun _ => ""

theorem Expr.mapOtherItems_eq_map (slice : String → String) (items : List Expr) :
    mapOtherItems slice items = items.map (mapOther slice) := by
  induction items with
  | nil => rfl
  | cons item items ih => rw [mapOtherItems, ih, List.map_cons]

structure Decorator.SameShape (decorator other : Decorator) : Prop where
  name : other.name = decorator.name
  arguments : other.arguments.map Expr.shape = decorator.arguments.map Expr.shape

/-- Two members of the files with the terminals `ts` and `us`. -/
structure Member.SameShape (ts us : List Terminal) (member other : Member) : Prop where
  kind : other.kind = member.kind
  /-- A name in brackets is kept as written. -/
  name : other.name = member.name ∨ Terminal.SameBrackets ts us member.name other.name
  modifiers : other.modifiers = member.modifiers
  decorators : List.Forall₂ Decorator.SameShape member.decorators other.decorators
  type : other.type.isSome = member.type.isSome

structure ClassDecl.SameShape (ts us : List Terminal) (decl other : ClassDecl) : Prop where
  name : other.name = decl.name
  base : other.base = decl.base
  decorators : List.Forall₂ Decorator.SameShape decl.decorators other.decorators
  members : List.Forall₂ (Member.SameShape ts us) decl.members other.members

namespace Likeness

variable {ts us : List Terminal}

/-- The surroundings of tokens differ, and with them lines, doc blocks and texts as written. -/
def respaced (ts us : List Terminal) : Likeness where
  alike := Terminal.RespacedIn ts us
  line := fun _ _ => True
  doc := fun _ _ => True
  slice := fun _ => ""
  name := fun name name' => name' = name ∨ Terminal.SameBrackets ts us name name'
  kind_eq := fun h => h.1.kind
  text_eq := fun h => h.1.text
  newlineBefore_eq := fun h => h.1.newlineBefore
  line_of_alike := fun _ => trivial
  doc_of_alike := fun _ => trivial
  slice_capture := fun _ _ => rfl
  name_refl := fun _ => .inl rfl
  name_capture := Terminal.capture_sameBrackets

theorem decorators_respaced {decorators others : List Decorator}
    (h : (respaced ts us).Decorators decorators others) :
    List.Forall₂ Decorator.SameShape decorators others := by
  rw [Decorators, eq_comm, ← List.forall₂_eq_eq_eq, List.forall₂_map_left_iff,
    List.forall₂_map_right_iff] at h
  refine h.imp fun decorator other heq => ?_
  simp only [Decorator.mapText, Decorator.mk.injEq, Expr.mapOtherItems_eq_map] at heq
  exact ⟨heq.1.symm, heq.2.2.symm⟩

theorem members_respaced {member other : Member} (h : (respaced ts us).Members member other) :
    Member.SameShape ts us member other := by
  have htype := congrArg Option.isSome h.type
  rw [Option.isSome_map, Option.isSome_map] at htype
  exact ⟨h.kind, h.name, h.modifiers, decorators_respaced h.decorators, htype⟩

theorem classes_respaced {decl other : ClassDecl} (h : (respaced ts us).Classes decl other) :
    ClassDecl.SameShape ts us decl other :=
  ⟨h.name, h.base, decorators_respaced h.decorators, h.members.imp fun _ _ => members_respaced⟩

end Likeness

namespace SourceFile

/-- Comments and spacing do not change the structure of a source text.  Two texts with the same
tokens apart from comments, of which the same ones begin a line, can both be parsed or fail for the
same cause, and then declare classes of the same shape. -/
theorem parse_of_skeleton_eq (name name' source other : String)
    (h : Token.skeleton (Token.scan source) = Token.skeleton (Token.scan other)) :
    let ts := Terminal.ofTokens (Token.scan source)
    let us := Terminal.ofTokens (Token.scan other)
    (∃ e e', (parse name source).value = .error e ∧ (parse name' other).value = .error e' ∧
        e'.cause = e.cause) ∨
      ∃ file file', (parse name source).value = .ok file ∧ (parse name' other).value = .ok file' ∧
        List.Forall₂ (ClassDecl.SameShape ts us) file.classes file'.classes := by
  intro ts us
  have hplaces := Terminal.forall₂_respacedIn (Terminal.forall₂_respaced h)
  have hagree := Declaration.value_parseDeclarations_agree (L := .respaced ts us) hplaces
  rw [parse, parse]
  dsimp only [ts, us] at hagree ⊢
  generalize (Declaration.parseDeclarations (Terminal.ofTokens (Token.scan source))).value = found
    at hagree ⊢
  generalize (Declaration.parseDeclarations (Terminal.ofTokens (Token.scan other))).value = found'
    at hagree ⊢
  cases hagree with
  | ok hclasses =>
    exact .inr ⟨_, _, rfl, rfl, hclasses.imp fun _ _ => Likeness.classes_respaced⟩
  | error hfaults => exact .inl ⟨_, _, rfl, rfl, hfaults.cause⟩

/-- A doc block, spaces inside brackets, and a comment inside an argument. -/
theorem parse_of_skeleton_eq_brackets :
    let source := "@C(x /* y */ + z)\nclass A \x7b /** d */ [ k ]: T \x7d"
    let other := "@C(x+z)\nclass A\x7b[k]:T\x7d"
    Token.skeleton (Token.scan source) = Token.skeleton (Token.scan other) ∧
      ((parse "a.ts" source).value.map fun file =>
          file.classes.flatMap fun decl => decl.members.map Member.name).toOption =
        some ["[ k ]"] ∧
      ((parse "a.ts" other).value.map fun file =>
          file.classes.flatMap fun decl => decl.members.map Member.name).toOption =
        some ["[k]"] ∧
      ∃ file file', (parse "a.ts" source).value = .ok file ∧
        (parse "a.ts" other).value = .ok file' ∧
        List.Forall₂ (ClassDecl.SameShape (Terminal.ofTokens (Token.scan source))
          (Terminal.ofTokens (Token.scan other))) file.classes file'.classes := by
  intro source other
  have hskeleton : Token.skeleton (Token.scan source) = Token.skeleton (Token.scan other) := by
    decide +kernel
  have hnames : ((parse "a.ts" source).value.map fun file =>
      file.classes.flatMap fun decl => decl.members.map Member.name).toOption =
        some ["[ k ]"] := by decide +kernel
  refine ⟨hskeleton, hnames, by decide +kernel, ?_⟩
  rcases parse_of_skeleton_eq "a.ts" "a.ts" source other hskeleton with ⟨e, -, herror, -⟩ | hfiles
  · rw [herror] at hnames
    cases hnames
  · exact hfiles

end SourceFile

end ComponentDocs
