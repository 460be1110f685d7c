import ComponentDocs.OrderedMap
import ComponentDocs.Text.Blank
import ComponentDocs.Text.Letter
import ComponentDocs.Text.Lines

/-!
# Doc blocks

A doc block is read line by line after its decoration is removed: the opening and closing marks of
the comment, and on every line the indentation, one star and the indentation after it.

In front of a class the lines `@group` and `@component` set values, the last one of a name
winning, and `@description` opens a description that runs up to the next of these three tags.  A
line with any other tag is plain text.  In front of a member the whole text is its description.
-/

namespace ComponentDocs

/-- What the doc block in front of a class says.  The keys of `values` are `group` and
`component`. -/
structure Tags where
  values : OrderedMap String
  description : String
  deriving DecidableEq

namespace Tags

def empty : Tags :=
  ⟨.empty, ""⟩

def group (tags : Tags) : Option String :=
  tags.values.get? "group"

def component (tags : Tags) : Option String :=
  tags.values.get? "component"

def isEmpty (tags : Tags) : Bool :=
  tags.values.isEmpty && tags.description.isEmpty

end Tags

namespace DocBlock

open Text

/-- A line without its indentation, one star and the indentation after the star. -/
def dropDecoration (line : List Char) : List Char :=
  let line := trimStart line
  trimStart ((dropStart? ['*'] line).getD line)

/-- The text between the opening and the closing mark of a comment. -/
def inner (comment : List Char) : List Char :=
  let opened := ((dropStart? "/**".toList comment).orElse fun _ =>
    dropStart? "/*".toList comment).getD comment
  (dropEnd? "*/".toList opened).getD opened

/-- The lines of a comment without decoration. -/
def contentLines (comment : String) : List (List Char) :=
  (lines (inner comment.toList)).map dropDecoration

/-- The text of a member's doc block, tags included. -/
def description (comment : Option String) : String :=
  match comment with
  | none => ""
  | some comment => String.ofList (trim (joinLines (contentLines comment)))

def isTagNameChar (c : Char) : Bool :=
  isWordChar c || c == '-'

/-- Name and value of a tag line: `@`, a name that starts with an ASCII letter, and either nothing
more or blank characters and a value. -/
def tagLine? : List Char → Option (String × List Char)
  | '@' :: first :: rest =>
    if isAsciiLetter first then
      let name := String.ofList (first :: rest.takeWhile isTagNameChar)
      match rest.dropWhile isTagNameChar with
      | [] => some (name, [])
      | c :: after => if isBlank c then some (name, trimStart after) else none
    else none
  | _ => none

/-- The state between two lines.  `body` holds the lines of a description that is still open, the
last one first. -/
structure Reading where
  tags : Tags
  body : Option (List (List Char))

namespace Reading

def start : Reading :=
  ⟨.empty, none⟩

/-- Ends an open description, which replaces any earlier one. -/
def close (reading : Reading) : Tags :=
  match reading.body with
  | none => reading.tags
  | some body =>
    { reading.tags with description := String.ofList (trim (joinLines body.reverse)) }

/-- Plain text counts only inside a description. -/
def addText (reading : Reading) (line : List Char) : Reading :=
  { reading with body := reading.body.map (line :: ·) }

def readLine (reading : Reading) (line : List Char) : Reading :=
  match tagLine? (trimEnd line) with
  | none => reading.addText line
  | some (name, value) =>
    if name = "group" ∨ name = "component" then
      let tags := reading.close
      ⟨{ tags with values := tags.values.insert name (String.ofList (trim value)) }, none⟩
    else if name = "description" then
      ⟨reading.close, some [value]⟩
    else
      reading.addText line

end Reading

/-- The tags of the doc block in front of a class. -/
def tags (comment : Option String) : Tags :=
  match comment with
  | none => .empty
  | some comment => ((contentLines comment).foldl Reading.readLine .start).close

end DocBlock

end ComponentDocs
