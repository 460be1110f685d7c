import ComponentDocs.Declaration.Basic
import ComponentDocs.Declaration.Group

/-!
# Arguments of decorators

Arguments are read into expressions: string and template literals without substitutions,
identifiers, arrays and objects.  An expression that goes on after such a part, or starts
differently, is skipped up to the comma or bracket that ends it and kept as its text.  Spread
items of an array and entries of an object that have no plain value are dropped.

The readers call each other on what the others leave over, so each of them returns a place
together with the fact that it lies at or after the place where it started.
-/

namespace ComponentDocs

/-- A value read at `ts` and the place after it. -/
structure Parsed (ts : List Terminal) (α : Type) where
  value : α
  rest : List Terminal
  suffix : rest <:+ ts

/-- A terminal that ends an item of a list. -/
def Terminal.endsItem (t : Terminal) : Bool :=
  t.kind == .comma || t.kind.isClosing

namespace Declaration

open Terminal

/-! ## Literals -/

/-- The character that a backslash and `c` stand for. -/
def unescapeChar (c : Char) : Char :=
  if c = 'n' then '\n' else if c = 't' then '\t' else if c = 'r' then '\r' else c

def unescape : List Char → List Char
  | [] => []
  | c :: rest =>
    if c = '\\' then
      match rest with
      | [] => []
      | escaped :: after => unescapeChar escaped :: unescape after
    else c :: unescape rest

/-- The text that a quoted literal stands for. -/
def unquote (literal : String) : String :=
  String.ofList (unescape literal.toList.tail.dropLast)

/-- A template literal with this text computes some of its parts. -/
def hasSubstitution : List Char → Bool
  | [] => false
  | c :: rest => (c == '$' && rest.head? == some '\x7b') || hasSubstitution rest

/-! ## Ends of expressions -/

def atItemEnd : List Terminal → Bool
  | [] => true
  | t :: _ => t.endsItem

/-- Skips what is left of an item of a list. -/
def skipExpression (ts : List Terminal) : Except Fault (List Terminal) :=
  match ts with
  | [] => .ok []
  | t :: rest =>
    if t.endsItem then .ok (t :: rest)
    else
      match _h : skipItem t rest with
      | .error fault => .error fault
      | .ok after => skipExpression after
termination_by ts.length
decreasing_by exact skipItem_length_lt _h

theorem skipExpression_suffix {ts after : List Terminal} (h : skipExpression ts = .ok after) :
    after <:+ ts := by
  fun_induction skipExpression ts with
  | case1 => cases h; exact List.suffix_rfl
  | case2 => cases h; exact List.suffix_rfl
  | case3 => cases h
  | case4 t rest _ next hitem ih =>
    exact ((ih h).trans (skipItem_suffix hitem)).trans (List.suffix_cons t rest)

/-- Skips an item that started at `ts` from `after` on, without a value. -/
def dropItem (α : Type) (ts after : List Terminal) (hafter : after <:+ ts) :
    Except Fault (Parsed ts (Option α)) :=
  match h : skipExpression after with
  | .error fault => .error fault
  | .ok rest => .ok ⟨none, rest, (skipExpression_suffix h).trans hafter⟩

/-- Skips an expression that started at `ts` from `after` on, and keeps its text. -/
def otherExpr (ts after : List Terminal) (hafter : after <:+ ts) :
    Except Fault (Parsed ts Expr) :=
  match h : skipExpression after with
  | .error fault => .error fault
  | .ok rest => .ok ⟨.other (capture ts rest), rest, (skipExpression_suffix h).trans hafter⟩

/-- The expression that started at `ts` is `expr` if it ends at `after`. -/
def exprIfEnded (ts : List Terminal) (expr : Expr) (after : List Terminal) (hafter : after <:+ ts) :
    Except Fault (Parsed ts Expr) :=
  if atItemEnd after then .ok ⟨expr, after, hafter⟩ else otherExpr ts after hafter

/-- The key of an object entry that starts with this terminal. -/
def entryKey? (t : Terminal) : Option String :=
  match t.kind with
  | .word | .number => some t.text
  | .string => some (unquote t.text)
  | _ => none

/-! ## Expressions -/

mutual

def readExpr (ts : List Terminal) : Except Fault (Parsed ts Expr) :=
  match ts with
  | [] => .ok ⟨.other "", [], List.suffix_rfl⟩
  | t :: rest =>
    match t.kind with
    | .opening .brace =>
      match readEntries t rest with
      | .error fault => .error fault
      | .ok entries =>
        exprIfEnded (t :: rest) (.object entries.value) entries.rest
          (entries.suffix.trans (List.suffix_cons t rest))
    | .opening .square =>
      match readItems .square t rest with
      | .error fault => .error fault
      | .ok items =>
        exprIfEnded (t :: rest) (.array items.value) items.rest
          (items.suffix.trans (List.suffix_cons t rest))
    | .string =>
      exprIfEnded (t :: rest) (.string (unquote t.text)) rest (List.suffix_cons t rest)
    | .template =>
      if hasSubstitution t.text.toList then otherExpr (t :: rest) (t :: rest) List.suffix_rfl
      else exprIfEnded (t :: rest) (.string (unquote t.text)) rest (List.suffix_cons t rest)
    | .word => exprIfEnded (t :: rest) (.name t.text) rest (List.suffix_cons t rest)
    | _ => otherExpr (t :: rest) (t :: rest) List.suffix_rfl
termination_by 3 * ts.length

/-- An item of an argument list or of an array, where a spread item has no value. -/
def readItem (bracket : Bracket) (ts : List Terminal) : Except Fault (Parsed ts (Option Expr)) :=
  if bracket = .square ∧ startsWith .ellipsis ts then dropItem Expr ts ts List.suffix_rfl
  else
    match readExpr ts with
    | .error fault => .error fault
    | .ok expr => .ok ⟨some expr.value, expr.rest, expr.suffix⟩
termination_by 3 * ts.length + 1

/-- The rest of an argument list or of an array, after its opening bracket or a comma. -/
def readItems (bracket : Bracket) (opener : Terminal) (ts : List Terminal) :
    Except Fault (Parsed ts (List Expr)) :=
  match ts with
  | [] => .error (.atTerminal opener (.unclosed opener.text))
  | t :: rest =>
    if t.kind = .closing bracket then .ok ⟨[], rest, List.suffix_cons t rest⟩
    else
      match readItem bracket (t :: rest) with
      | .error fault => .error fault
      | .ok ⟨_, [], _⟩ => .error (.atPlace [] (.separator bracket))
      | .ok ⟨item, u :: more, hsuffix⟩ =>
        if u.kind = .comma then
          have _hshorter : more.length < rest.length + 1 := hsuffix.length_le
          match readItems bracket opener more with
          | .error fault => .error fault
          | .ok items =>
            .ok ⟨item.toList ++ items.value, items.rest,
              (items.suffix.trans (List.suffix_cons u more)).trans hsuffix⟩
        else if u.kind = .closing bracket then
          .ok ⟨item.toList, more, (List.suffix_cons u more).trans hsuffix⟩
        else .error (.atTerminal u (.separator bracket))
termination_by 3 * ts.length + 2

/-- An entry of an object: a key with a value, or a name that stands for both.  Methods, accessors
and spread entries have no value. -/
def readEntry (ts : List Terminal) : Except Fault (Parsed ts (Option (String × Expr))) :=
  match ts with
  | [] => .ok ⟨none, [], List.suffix_rfl⟩
  | t :: rest =>
    match entryKey? t with
    | none => dropItem _ (t :: rest) (t :: rest) List.suffix_rfl
    | some key =>
      match rest with
      | [] => .ok ⟨none, [], List.nil_suffix⟩
      | u :: more =>
        if u.kind = .colon then
          match readExpr more with
          | .error fault => .error fault
          | .ok expr =>
            .ok ⟨some (key, expr.value), expr.rest,
              (expr.suffix.trans (List.suffix_cons u more)).trans (List.suffix_cons t _)⟩
        else if u.kind = .comma ∨ u.kind = .closing .brace then
          .ok ⟨some (key, .name key), u :: more, List.suffix_cons t _⟩
        else dropItem _ (t :: u :: more) (u :: more) (List.suffix_cons t _)
termination_by 3 * ts.length + 1

/-- The rest of an object, after its opening brace or a comma. -/
def readEntries (opener : Terminal) (ts : List Terminal) :
    Except Fault (Parsed ts (List (String × Expr))) :=
  match ts with
  | [] => .error (.atTerminal opener (.unclosed opener.text))
  | t :: rest =>
    if t.kind = .closing .brace then .ok ⟨[], rest, List.suffix_cons t rest⟩
    else
      match readEntry (t :: rest) with
      | .error fault => .error fault
      | .ok ⟨_, [], _⟩ => .error (.atPlace [] (.separator .brace))
      | .ok ⟨entry, u :: more, hsuffix⟩ =>
        if u.kind = .comma then
          have _hshorter : more.length < rest.length + 1 := hsuffix.length_le
          match readEntries opener more with
          | .error fault => .error fault
          | .ok entries =>
            .ok ⟨entry.toList ++ entries.value, entries.rest,
              (entries.suffix.trans (List.suffix_cons u more)).trans hsuffix⟩
        else if u.kind = .closing .brace then
          .ok ⟨entry.toList, more, (List.suffix_cons u more).trans hsuffix⟩
        else .error (.atTerminal u (.separator .brace))
termination_by 3 * ts.length + 2

end

/-- The arguments of a call and the place after its closing parenthesis. -/
def parseArguments (opener : Terminal) (ts : List Terminal) :
    Except Fault (List Expr × List Terminal) :=
  (readItems .paren opener ts).map fun items => (items.value, items.rest)

theorem parseArguments_suffix {opener : Terminal} {ts after : List Terminal}
    {arguments : List Expr} (h : parseArguments opener ts = .ok (arguments, after)) :
    after <:+ ts := by
  unfold parseArguments at h
  cases hitems : readItems .paren opener ts with
  | error fault => rw [hitems] at h; cases h
  | ok items =>
    rw [hitems] at h
    cases h
    exact items.suffix

end Declaration

end ComponentDocs
