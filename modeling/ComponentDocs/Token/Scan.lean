import ComponentDocs.Token.Basic
import ComponentDocs.Token.Literal

/-!
# From source text to tokens

Scanning takes the longest token at each place and skips the blank space between tokens.  A
character that starts no token, and a literal or block comment that is not closed, becomes an
error token, so scanning never fails and loses no character.

Whether a slash starts a regular expression or divides depends on the last token before it that is
not a comment.
-/

namespace ComponentDocs.Token

open Text Literal

/-- Blank space between tokens. -/
def isSpace (c : Char) : Bool :=
  c == ' ' || c == '\t' || c == '\r' || c == '\n' || c == '\x0c'

/-- Words after which an expression begins. -/
def operandWords : List String :=
  ["return", "typeof", "case", "do", "else", "in", "of", "new", "delete", "void", "throw", "yield",
    "await"]

/-- An expression may begin after this token, on the same line. -/
def beginsOperand (token : Token) : Bool :=
  match token.kind with
  | .opening _ | .closing .brace | .comma | .semicolon | .colon | .equals | .arrow | .bang
  | .question | .operator => true
  | .word => operandWords.contains token.text
  | _ => false

/-- The tokens of one character that no other rule covers. -/
def symbols : List (Char × Kind) :=
  [('\x7b', .opening .brace), ('\x7d', .closing .brace), ('(', .opening .paren),
    (')', .closing .paren), ('[', .opening .square), (']', .closing .square), ('<', .less),
    ('>', .greater), (',', .comma), (';', .semicolon), (':', .colon), ('!', .bang), ('@', .atSign),
    ('#', .hash), ('*', .star), ('-', .operator), ('+', .operator), ('%', .operator),
    ('&', .operator), ('|', .operator), ('^', .operator), ('~', .operator)]

def symbolKind (c : Char) : Kind :=
  (symbols.lookup c).getD .error

/-- A literal between two `quote` characters, of kind `kind` when it is closed. -/
def quotedExtent (quote : Char) (multiline : Bool) (kind : Kind) (rest : List Char) : Kind × Nat :=
  let (closed, n) := quotedLength quote multiline rest
  (if closed then kind else .error, n)

/-- A slash opens a comment, a regular expression where one is allowed, or stands for itself. -/
def slashExtent (regexAllowed : Bool) (rest : List Char) : Kind × Nat :=
  match rest with
  | '/' :: comment => (.lineComment, 1 + lineCommentLength comment)
  | '*' :: comment =>
    match blockCommentLength? comment with
    | some n => (.blockComment, 1 + n)
    | none => (.error, 1)
  | _ =>
    match (if regexAllowed then regexLength? rest else none) with
    | some n => (.regex, n)
    | none => (.slash, 0)

/-- Kind of the token that starts with `c`, and how many of the characters `rest` after `c` belong
to it. -/
def extent (regexAllowed : Bool) (c : Char) (rest : List Char) : Kind × Nat :=
  if isWordStart c then (.word, wordLength rest)
  else if isAsciiDigit c then (.number, numberLength c rest)
  else if c = '"' ∨ c = '\x27' then quotedExtent c false .string rest
  else if c = '\x60' then quotedExtent c true .template rest
  else if c = '/' then slashExtent regexAllowed rest
  else if c = '.' then if ['.', '.'].isPrefixOf rest then (.ellipsis, 2) else (.dot, 0)
  else if c = '?' then if ['.'].isPrefixOf rest then (.optionalDot, 1) else (.question, 0)
  else if c = '=' then if ['>'].isPrefixOf rest then (.arrow, 1) else (.equals, 0)
  else (symbolKind c, 0)

/-- What scanning remembers of the text behind it. -/
structure Context where
  offset : Nat
  line : Nat
  /-- A line feed was passed since the last token that is not a comment. -/
  newline : Bool
  /-- The last token that is not a comment. -/
  previous : Option Token

namespace Context

def start : Context :=
  ⟨0, 1, false, none⟩

def skip (context : Context) (space : List Char) : Context :=
  { context with
    offset := context.offset + byteSize space
    line := context.line + countNewlines space
    newline := context.newline || space.contains '\n' }

/-- A slash at this point begins an expression. -/
def regexAllowed (context : Context) : Bool :=
  match context.previous with
  | none => true
  | some token => context.newline || token.beginsOperand

/-- A token at this point, after blank space that has been skipped. -/
def token (context : Context) (leading : List Char) (kind : Kind) (text : List Char) : Token :=
  ⟨kind, String.ofList text, String.ofList leading, context.offset, context.line, context.newline⟩

/-- The context after a token at this point; a comment hides neither the line feeds before it nor
the token before it. -/
def advance (context : Context) (token : Token) (text : List Char) : Context :=
  { offset := context.offset + byteSize text
    line := context.line + countNewlines text
    newline := token.kind.isComment && (context.newline || text.contains '\n')
    previous := if token.kind.isComment then context.previous else some token }

end Context

/-- The tokens of the text that follows `context`. -/
def scanFrom (context : Context) (cs : List Char) : List Token :=
  let space := cs.takeWhile isSpace
  match _h : cs.dropWhile isSpace with
  | [] => []
  | c :: rest =>
    let context := context.skip space
    let (kind, n) := extent context.regexAllowed c rest
    let text := c :: rest.take n
    let token := context.token space kind text
    token :: scanFrom (context.advance token text) (rest.drop n)
termination_by cs.length
decreasing_by
  have hshorter := (List.dropWhile_sublist (l := cs) isSpace).length_le
  rw [_h] at hshorter
  simp only [List.length_cons, List.length_drop] at hshorter ⊢
  omega

/-- The tokens of a source text in order. -/
def scan (source : String) : List Token :=
  scanFrom .start source.toList

end ComponentDocs.Token
