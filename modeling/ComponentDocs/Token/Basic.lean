import ComponentDocs.Text.Lines

/-!
# Tokens of TypeScript text

The kinds are coarse: keywords are words, and most operators of more than one character come as
several tokens.  Comments are tokens too, because a doc block belongs to the declaration after it.

A token carries the blank space directly before it.  A source text is therefore its tokens, each
with its leading space, followed by the blank space at the end.
-/

namespace ComponentDocs

inductive Bracket where
  | brace
  | paren
  | square
  deriving DecidableEq

inductive Token.Kind where
  | lineComment
  | blockComment
  | word
  | number
  | string
  | template
  /-- A regular expression literal with its flags. -/
  | regex
  | opening (bracket : Bracket)
  | closing (bracket : Bracket)
  | less
  | greater
  | comma
  | semicolon
  | colon
  | dot
  | optionalDot
  | ellipsis
  | question
  | bang
  | equals
  | arrow
  | atSign
  | hash
  | star
  | slash
  | operator
  | error
  deriving DecidableEq

def Token.Kind.isComment : Token.Kind → Bool
  | .lineComment | .blockComment => true
  | _ => false

def Token.Kind.isClosing : Token.Kind → Bool
  | .closing _ => true
  | _ => false

structure Token where
  kind : Token.Kind
  text : String
  /-- The blank space directly before the token. -/
  leading : String
  /-- Byte offset of the token in the source. -/
  offset : Nat
  /-- Line of the token's first character, counted from 1. -/
  line : Nat
  /-- A line feed stands between the token and the last token before it that is not a comment. -/
  newlineBefore : Bool
  deriving DecidableEq

namespace Token

/-- Byte offset of the end of the token. -/
def stop (token : Token) : Nat :=
  token.offset + Text.byteSize token.text.toList

/-- A doc block opens with two stars; the empty comment has only one. -/
def isDocBlock (token : Token) : Bool :=
  token.kind == .blockComment && "/**".toList.isPrefixOf token.text.toList && token.text != "/**/"

/-- The token as it stands in the source, with the space before it. -/
def spelling (token : Token) : String :=
  token.leading ++ token.text

end Token

end ComponentDocs
