import ComponentDocs.Declaration.Fault
import ComponentDocs.Text.Blank

/-!
# Terminals

The declarations of a file are read from its tokens that are not comments.  Each of them keeps the
comments directly before it, because a doc block belongs to the declaration it precedes and
because the texts that are kept as written include the comments inside them.

A place in the file is the list of the terminals from there on.  The text between two places is
`capture before after`.
-/

namespace ComponentDocs

/-- Two steps succeed in a row exactly when the first does and the second does on its result. -/
theorem bind_eq_ok_iff {ε α β : Type} {x : Except ε α} {f : α → Except ε β} {b : β} :
    (x >>= f) = .ok b ↔ ∃ a, x = .ok a ∧ f a = .ok b := by
  cases x <;> simp [bind, Except.bind]

structure Terminal where
  /-- The comments between the terminal before this one and this one. -/
  comments : List Token
  token : Token
  deriving DecidableEq

namespace Terminal

abbrev kind (terminal : Terminal) : Token.Kind :=
  terminal.token.kind

abbrev text (terminal : Terminal) : String :=
  terminal.token.text

abbrev line (terminal : Terminal) : Nat :=
  terminal.token.line

abbrev newlineBefore (terminal : Terminal) : Bool :=
  terminal.token.newlineBefore

def isWord (terminal : Terminal) (word : String) : Bool :=
  terminal.kind == .word && terminal.text == word

def isOperator (terminal : Terminal) (text : String) : Bool :=
  terminal.kind == .operator && terminal.text == text

/-- The doc block nearest to the terminal among the comments directly before it. -/
def doc (terminal : Terminal) : Option String :=
  (terminal.comments.reverse.find? Token.isDocBlock).map Token.text

/-- The source text between the terminal before this one and this one. -/
def leading (terminal : Terminal) : List Char :=
  terminal.comments.flatMap (fun comment => comment.spelling.toList) ++
    terminal.token.leading.toList

/-- Puts a comment in front of the first terminal.  A comment that no terminal follows belongs to
nothing. -/
def attach (comment : Token) : List Terminal → List Terminal
  | [] => []
  | terminal :: rest => { terminal with comments := comment :: terminal.comments } :: rest

/-- The terminals of a token list. -/
def ofTokens : List Token → List Terminal
  | [] => []
  | token :: rest =>
    if token.kind.isComment then attach token (ofTokens rest) else ⟨[], token⟩ :: ofTokens rest

/-- The source text from the first terminal to the last one. -/
def spelling : List Terminal → List Char
  | [] => []
  | first :: rest =>
    first.text.toList ++ rest.flatMap fun terminal => terminal.leading ++ terminal.text.toList

/-- The source text of the terminals between two places, trimmed. -/
def capture (before after : List Terminal) : String :=
  String.ofList (Text.trim (spelling (before.take (before.length - after.length))))

/-! ## Looking at a place -/

def startsWith (kind : Token.Kind) : List Terminal → Bool
  | [] => false
  | terminal :: _ => terminal.kind == kind

def startsWithWord (word : String) : List Terminal → Bool
  | [] => false
  | terminal :: _ => terminal.isWord word

/-- The place after an optional terminal of this kind. -/
def skipOptional (kind : Token.Kind) : List Terminal → List Terminal
  | [] => []
  | terminal :: rest => if terminal.kind = kind then rest else terminal :: rest

theorem skipOptional_suffix (kind : Token.Kind) (ts : List Terminal) :
    skipOptional kind ts <:+ ts := by
  fun_cases skipOptional kind ts with
  | case1 => exact List.suffix_rfl
  | case2 terminal rest _ => exact List.suffix_cons terminal rest
  | case3 => exact List.suffix_rfl

end Terminal

namespace Fault

/-- A fault at a terminal. -/
def atTerminal (terminal : Terminal) (cause : Cause) : Fault :=
  ⟨some terminal.line, cause⟩

/-- A fault at a place. -/
def atPlace (ts : List Terminal) (cause : Cause) : Fault :=
  ⟨ts.head?.map Terminal.line, cause⟩

/-- Something else was expected at a place. -/
def expectedAt (ts : List Terminal) (what : Expected) : Fault :=
  atPlace ts (.expected what (ts.head?.map Terminal.text))

end Fault

end ComponentDocs
