import ComponentDocs.Declaration.Argument

/-!
# Decorators

A decorator is an at sign, a dotted name and optional arguments.
-/

namespace ComponentDocs.Declaration

open Terminal

/-- The last part of a dotted name and the place after the name. -/
def parseDecoratorName : List Terminal → Except Fault (String × List Terminal)
  | [] => .error (.expectedAt [] .decoratorName)
  | name :: rest =>
    if name.kind = .word then
      match rest with
      | [] => .ok (name.text, [])
      | dot :: after =>
        if dot.kind = .dot then parseDecoratorName after else .ok (name.text, dot :: after)
    else .error (.expectedAt (name :: rest) .decoratorName)

theorem parseDecoratorName_suffix {ts after : List Terminal} {name : String}
    (h : parseDecoratorName ts = .ok (name, after)) : after <:+ ts := by
  fun_induction parseDecoratorName ts with
  | case1 => cases h
  | case2 => cases h; exact List.nil_suffix
  | case3 first _ dot rest _ ih =>
    exact ((ih h).trans (List.suffix_cons dot rest)).trans (List.suffix_cons first _)
  | case4 first => cases h; exact List.suffix_cons first _
  | case5 => cases h

/-- The arguments in parentheses, if there are any here. -/
def parseOptionalArguments : List Terminal → Except Fault (List Expr × List Terminal)
  | [] => .ok ([], [])
  | t :: rest => if t.kind = .opening .paren then parseArguments t rest else .ok ([], t :: rest)

theorem parseOptionalArguments_suffix {ts after : List Terminal} {arguments : List Expr}
    (h : parseOptionalArguments ts = .ok (arguments, after)) : after <:+ ts := by
  unfold parseOptionalArguments at h
  split at h
  · cases h
    exact List.suffix_rfl
  · rename_i t rest
    split at h
    · exact (parseArguments_suffix h).trans (List.suffix_cons t rest)
    · cases h
      exact List.suffix_rfl

/-- The decorator that starts with the at sign `sign`. -/
def parseDecorator (sign : Terminal) (rest : List Terminal) :
    Except Fault (Decorator × List Terminal) := do
  let (name, afterName) ← parseDecoratorName rest
  let (arguments, after) ← parseOptionalArguments afterName
  return (⟨name, capture (sign :: rest) after, arguments⟩, after)

theorem parseDecorator_suffix {sign : Terminal} {rest after : List Terminal} {decorator : Decorator}
    (h : parseDecorator sign rest = .ok (decorator, after)) : after <:+ rest := by
  obtain ⟨⟨name, afterName⟩, hname, h⟩ := bind_eq_ok_iff.1 h
  obtain ⟨⟨arguments, final⟩, harguments, h⟩ := bind_eq_ok_iff.1 h
  cases h
  exact (parseOptionalArguments_suffix harguments).trans (parseDecoratorName_suffix hname)

/-- All decorators that stand here in a row. -/
def parseDecorators (ts : List Terminal) : Except Fault (List Decorator × List Terminal) :=
  match ts with
  | [] => .ok ([], [])
  | t :: rest =>
    if t.kind = .atSign then
      match _h : parseDecorator t rest with
      | .error fault => .error fault
      | .ok (decorator, after) =>
        match parseDecorators after with
        | .error fault => .error fault
        | .ok (decorators, final) => .ok (decorator :: decorators, final)
    else .ok ([], t :: rest)
termination_by ts.length
decreasing_by exact Nat.lt_succ_of_le (parseDecorator_suffix _h).length_le

theorem parseDecorators_suffix {ts after : List Terminal} {decorators : List Decorator}
    (h : parseDecorators ts = .ok (decorators, after)) : after <:+ ts := by
  fun_induction parseDecorators ts generalizing decorators with
  | case1 => cases h; exact List.suffix_rfl
  | case2 => cases h
  | case3 => cases h
  | case4 t rest _ decorator next hdecorator others final hothers ih =>
    cases h
    exact ((ih hothers).trans (parseDecorator_suffix hdecorator)).trans (List.suffix_cons t rest)
  | case5 => cases h; exact List.suffix_rfl

end ComponentDocs.Declaration
