import ComponentDocs.Declaration.Group

/-!
# Extent of initializers

The initializer of a property is skipped.  It ends before a semicolon, before the brace that
closes the class, or at the end of a line after which the expression is complete and the next line
does not go on with it.
-/

namespace ComponentDocs

namespace Terminal

/-- Words that cannot end an expression. -/
def leadingWords : List String :=
  ["new", "typeof", "void", "await", "delete", "in", "instanceof", "of", "as", "satisfies"]

/-- Words that go on with the expression of the line before. -/
def joiningWords : List String :=
  ["as", "satisfies", "instanceof", "in"]

/-- A terminal that goes on with the expression of the line before. -/
def continuesExpression (t : Terminal) : Bool :=
  match t.kind with
  | .dot | .optionalDot | .arrow | .operator | .question | .colon | .equals | .less | .greater
  | .star | .slash | .comma | .opening .paren => true
  | .word => joiningWords.contains t.text
  | _ => false

/-- An expression can end with this terminal, or with the group that it opens. -/
def endsExpression (t : Terminal) : Bool :=
  match t.kind with
  | .word => !leadingWords.contains t.text
  | .number | .string | .template | .regex | .bang | .opening _ => true
  | _ => false

end Terminal

namespace Declaration

/-- Skips an initializer; `complete` tells whether it could end here. -/
def skipInitializer (complete : Bool) (ts : List Terminal) : Except Fault (List Terminal) :=
  match ts with
  | [] => .ok []
  | t :: rest =>
    if t.kind = .semicolon ∨ t.kind = .closing .brace then .ok (t :: rest)
    else if t.newlineBefore && complete && !t.continuesExpression then .ok (t :: rest)
    else if t.kind.isClosing then .error (.atTerminal t (.unexpected t.text))
    else
      match _h : skipItem t rest with
      | .error fault => .error fault
      | .ok after => skipInitializer t.endsExpression after
termination_by ts.length
decreasing_by exact skipItem_length_lt _h

theorem skipInitializer_suffix {complete : Bool} {ts after : List Terminal}
    (h : skipInitializer complete ts = .ok after) : after <:+ ts := by
  fun_induction skipInitializer complete ts with
  | case1 => cases h; exact List.suffix_rfl
  | case2 => cases h; exact List.suffix_rfl
  | case3 => cases h; exact List.suffix_rfl
  | case4 => cases h
  | case5 => cases h
  | case6 _ t rest _ _ _ next hitem ih =>
    exact ((ih h).trans (skipItem_suffix hitem)).trans (List.suffix_cons t rest)

end Declaration

end ComponentDocs
