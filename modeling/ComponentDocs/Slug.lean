import ComponentDocs.Text.Casing

/-!
# Slugs

An anchor slug is the lower-case text with every space as a hyphen and without any other character
that is neither alphanumeric nor a hyphen.  A route slug first puts a hyphen between a lower-case
letter or digit and an upper-case letter after it, so that `FooBar` becomes `foo-bar`.
-/

namespace ComponentDocs.Slug

open Text

/-- What an anchor keeps of one lower-case character. -/
def anchorChar (c : Char) : List Char :=
  if isAlphanumeric c || c == '-' then [c]
  else if c == ' ' then ['-']
  else []

def anchorChars (cs : List Char) : List Char :=
  (lowercase cs).flatMap anchorChar

/-- An upper-case letter directly after a lower-case letter or a digit starts a new word. -/
def startsWord (previous : Option Char) (c : Char) : Bool :=
  isUppercase c &&
    match previous with
    | none => false
    | some p => isLowercase p || isAsciiDigit p

/-- A text with a hyphen before every letter that starts a new word. -/
def hyphenate (previous : Option Char) : List Char → List Char
  | [] => []
  | c :: rest =>
    if startsWord previous c then '-' :: c :: hyphenate (some c) rest
    else c :: hyphenate (some c) rest

/-- The anchor of a heading. -/
def anchor (text : String) : String :=
  String.ofList (anchorChars text.toList)

/-- The route segment of a class. -/
def route (className : String) : String :=
  String.ofList (anchorChars (hyphenate none className.toList))

end ComponentDocs.Slug
