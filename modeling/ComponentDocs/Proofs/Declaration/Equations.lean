import ComponentDocs.Declaration.File

/-!
# Equations of the parsers that loop

A parser that goes on from a place where another one stopped carries, in its definition, the fact
that this place is later.  The equations here leave that fact out: each says how one round of a
loop is made of a step and the rest of the loop, as a sequence of two steps.
-/

namespace ComponentDocs

@[simp] theorem ok_bind {ε α β : Type} (a : α) (f : α → Except ε β) : (.ok a >>= f) = f a :=
  rfl

@[simp] theorem error_bind {ε α β : Type} (e : ε) (f : α → Except ε β) :
    (.error e >>= f) = .error e :=
  rfl

/-- A mapped step succeeds exactly when the step does. -/
theorem map_eq_ok_iff {ε α β : Type} {x : Except ε α} {f : α → β} {b : β} :
    x.map f = .ok b ↔ ∃ a, x = .ok a ∧ f a = b := by
  cases x <;> simp [Except.map]

namespace Declaration

open Terminal

theorem closeAngles_cons (opener : Terminal) (depth : Nat) (t : Terminal) (rest : List Terminal) :
    closeAngles opener (depth + 1) (t :: rest) =
      if t.kind = .less then closeAngles opener (depth + 2) rest
      else if t.kind = .greater then closeAngles opener depth rest
      else if t.kind.isClosing ∨ t.kind = .semicolon then
        .error (.atTerminal opener (.unclosed opener.text))
      else skipItem t rest >>= closeAngles opener (depth + 1) := by
  rw [closeAngles]
  split
  · rfl
  · split
    · rfl
    · split
      · rfl
      · split <;> (rename_i hitem; rw [hitem]; rfl)

theorem skipStatement_cons (started : Bool) (t : Terminal) (rest : List Terminal) :
    skipStatement started (t :: rest) =
      if started && t.beginsStatement then .ok (t :: rest)
      else if t.kind = .semicolon then .ok rest
      else if t.kind.isClosing then .error (.atTerminal t (.unexpected t.text))
      else skipItem t rest >>= fun after =>
        if t.kind = .opening .brace ∧ atLineEnd after then .ok after
        else skipStatement true after := by
  rw [skipStatement]
  split
  · rfl
  · split
    · rfl
    · split
      · rfl
      · split <;> (rename_i hitem; rw [hitem]; rfl)

theorem skipExpression_cons (t : Terminal) (rest : List Terminal) :
    skipExpression (t :: rest) =
      if t.endsItem then .ok (t :: rest) else skipItem t rest >>= skipExpression := by
  rw [skipExpression]
  split
  · rfl
  · split <;> (rename_i hitem; rw [hitem]; rfl)

theorem parseDecoratorName_cons (name : Terminal) (rest : List Terminal) :
    parseDecoratorName (name :: rest) =
      if name.kind = .word then
        match rest with
        | [] => .ok (name.text, [])
        | dot :: after =>
          if dot.kind = .dot then parseDecoratorName after else .ok (name.text, dot :: after)
      else .error (.expectedAt (name :: rest) .decoratorName) :=
  parseDecoratorName.eq_def (name :: rest)

theorem parseDecorators_cons (t : Terminal) (rest : List Terminal) :
    parseDecorators (t :: rest) =
      if t.kind = .atSign then
        parseDecorator t rest >>= fun (decorator, after) =>
          parseDecorators after >>= fun (decorators, final) => .ok (decorator :: decorators, final)
      else .ok ([], t :: rest) := by
  rw [parseDecorators]
  split
  · split
    · rename_i hdecorator
      rw [hdecorator]
      rfl
    · rename_i decorator after hdecorator
      rw [hdecorator]
      dsimp only [ok_bind]
      cases parseDecorators after <;> rfl
  · rfl

theorem skipQualifiers_cons (dot : Terminal) (rest : List Terminal) :
    skipQualifiers (dot :: rest) =
      if dot.kind = .dot then
        match rest with
        | [] => .error (.expectedAt [] .typeName)
        | name :: after =>
          if name.kind = .word then skipQualifiers after
          else .error (.expectedAt (name :: after) .typeName)
      else .ok (dot :: rest) :=
  skipQualifiers.eq_def (dot :: rest)

theorem skipTypePart_cons (t : Terminal) (rest : List Terminal) :
    skipTypePart (t :: rest) =
      match t.kind with
      | .opening bracket => skipGroup t bracket rest
      | .less => skipAngles t rest >>= skipOptionalGroup .paren
      | .word =>
        if typeOperators.contains t.text then skipTypePart rest
        else skipTypeName rest >>= fun after =>
          match after with
          | [] => .ok []
          | word :: more => if word.isWord "is" then skipTypePart more else .ok (word :: more)
      | .string | .number | .template => .ok rest
      | .operator =>
        if t.text = "-" then skipTypePart rest
        else .error (.atTerminal t (.typeExpected (some t.text)))
      | _ => .error (.atTerminal t (.typeExpected (some t.text))) := by
  rw [skipTypePart]
  generalize t.kind = kind
  cases kind with
  | word =>
    dsimp only
    split
    · rfl
    · split <;> (rename_i hname; rw [hname]; rfl)
  | _ => rfl

theorem skipIndexes_cons (t : Terminal) (rest : List Terminal) :
    skipIndexes (t :: rest) =
      if t.kind = .opening .square ∧ t.newlineBefore = false then
        skipGroup t .square rest >>= skipIndexes
      else .ok (t :: rest) := by
  rw [skipIndexes]
  split
  · split <;> (rename_i hgroup; rw [hgroup]; rfl)
  · rfl

theorem skipTypeParts_eq (ts : List Terminal) :
    skipTypeParts ts =
      skipTypePart ts >>= fun part => skipIndexes part >>= fun after =>
        match after with
        | [] => .ok []
        | t :: rest => if t.isTypeJoin then skipTypeParts rest else .ok (t :: rest) := by
  rw [skipTypeParts]
  split
  · rename_i hpart
    rw [hpart]
    rfl
  · rename_i part hpart
    rw [hpart, ok_bind]
    split <;> (rename_i hindexes; rw [hindexes]; rfl)

theorem skipInitializer_cons (complete : Bool) (t : Terminal) (rest : List Terminal) :
    skipInitializer complete (t :: rest) =
      if t.kind = .semicolon ∨ t.kind = .closing .brace then .ok (t :: rest)
      else if t.newlineBefore && complete && !t.continuesExpression then .ok (t :: rest)
      else if t.kind.isClosing then .error (.atTerminal t (.unexpected t.text))
      else skipItem t rest >>= skipInitializer t.endsExpression := by
  rw [skipInitializer]
  split
  · rfl
  · split
    · rfl
    · split
      · rfl
      · split <;> (rename_i hitem; rw [hitem]; rfl)

theorem parseMemberName_cons (t : Terminal) (rest : List Terminal) :
    parseMemberName (t :: rest) =
      match t.kind with
      | .word | .number => .ok ((t.text, false), rest)
      | .string => .ok ((unquote t.text, false), rest)
      | .hash =>
        match rest with
        | [] => .error (.expectedAt [] .privateName)
        | name :: after =>
          if name.kind = .word then .ok (("#" ++ name.text, true), after)
          else .error (.expectedAt (name :: after) .privateName)
      | .opening .square =>
        skipGroup t .square rest >>= fun after => .ok ((capture (t :: rest) after, false), after)
      | _ => .error (.atTerminal t (.memberExpected (some t.text))) := by
  rw [parseMemberName.eq_def]
  dsimp only
  cases skipGroup t .square rest <;> rfl

theorem parseBaseName_cons (name : Terminal) (rest : List Terminal) :
    parseBaseName (name :: rest) =
      if name.kind = .word then
        match rest with
        | [] => (some name.text, [])
        | dot :: after =>
          if dot.kind = .dot then
            (some ((parseBaseName after).1.getD name.text), (parseBaseName after).2)
          else (some name.text, dot :: after)
      else (none, name :: rest) :=
  parseBaseName.eq_def (name :: rest)

theorem skipComputedBase_cons (t : Terminal) (rest : List Terminal) :
    skipComputedBase (t :: rest) =
      if t.kind = .opening .brace ∨ t.isWord "implements" then .ok (t :: rest)
      else skipItem t rest >>= skipComputedBase := by
  rw [skipComputedBase]
  split
  · rfl
  · split <;> (rename_i hitem; rw [hitem]; rfl)

theorem skipToBody_cons (t : Terminal) (rest : List Terminal) :
    skipToBody (t :: rest) =
      if t.kind = .opening .brace then .ok (t :: rest)
      else if t.kind = .less then skipAngles t rest >>= skipToBody
      else skipToBody rest := by
  rw [skipToBody]
  split
  · rfl
  · split
    · split <;> (rename_i hangles; rw [hangles]; rfl)
    · rfl

theorem parseMembers_cons (opener t : Terminal) (rest : List Terminal) :
    parseMembers opener (t :: rest) =
      if t.kind = .semicolon then parseMembers opener rest
      else if t.kind = .closing .brace then .ok ([], rest)
      else parseMember (t :: rest) >>= fun (member, after) =>
        parseMembers opener after >>= fun (members, final) =>
          .ok (member.toList ++ members, final) := by
  rw [parseMembers]
  split
  · rfl
  · split
    · rfl
    · split
      · rename_i hmember
        rw [hmember]
        rfl
      · rename_i member after hmember
        rw [hmember]
        dsimp only [ok_bind]
        cases parseMembers opener after <;> rfl

theorem value_parseClass (line : Nat) (doc : Option String) (decorators : List Decorator)
    (ts : List Terminal) :
    (parseClass line doc decorators ts).value =
      parseHeader ts >>= fun ((name, heritage), afterHeader) =>
        parseBody afterHeader >>= fun (members, after) =>
          .ok (name.map fun name => ⟨name, line, doc, decorators, heritage.name?, members⟩,
            after) := by
  rw [parseClass]
  cases parseHeader ts with
  | error fault => rfl
  | ok header =>
    obtain ⟨⟨name, heritage⟩, afterHeader⟩ := header
    dsimp only [ok_bind]
    cases parseBody afterHeader with
    | error fault => rfl
    | ok body => cases name <;> rfl

theorem value_parseDeclaration (start : Terminal) (rest : List Terminal) :
    (parseDeclaration start rest).value =
      parsePreamble (start :: rest) >>= fun (decorators, after) =>
        (parseClassOrStatement start decorators after).value := by
  rw [parseDeclaration]
  cases parsePreamble (start :: rest) <;> rfl

/-- The classes of a file: those of its first declaration and those of the rest. -/
theorem value_parseDeclarations_cons (start : Terminal) (rest : List Terminal) :
    (parseDeclarations (start :: rest)).value =
      (parseDeclaration start rest).value >>= fun (decl, after) =>
        (parseDeclarations after).value.map (decl.toList ++ ·) := by
  rw [parseDeclarations]
  split <;> (rename_i hdeclaration; rw [hdeclaration]; rfl)

end Declaration

end ComponentDocs
