/-!
# Lines, ends and replacement

Texts are split into lines at line feeds.  A carriage return directly before the line feed belongs
to the line ending, any other carriage return to the line, and the end of the text closes a line
only if that line is not empty.
-/

namespace ComponentDocs.Text

/-- The pieces of a text between the occurrences of `separator`, at least one. -/
def splitAt (separator : Char) : List Char → List (List Char)
  | [] => [[]]
  | c :: rest =>
    if c = separator then [] :: splitAt separator rest
    else
      match splitAt separator rest with
      | [] => [[c]]
      | piece :: pieces => (c :: piece) :: pieces

/-- A line without the carriage return at its end. -/
def dropReturn (line : List Char) : List Char :=
  if line.getLast? = some '\r' then line.dropLast else line

/-- The lines of a text whose pieces between line feeds are given: the last piece was not ended by a
line feed, so it is a line only if it is not empty, and keeps its carriage return. -/
def linesOfPieces : List (List Char) → List (List Char)
  | [] => []
  | [last] => if last.isEmpty then [] else [last]
  | piece :: pieces => dropReturn piece :: linesOfPieces pieces

def lines (cs : List Char) : List (List Char) :=
  linesOfPieces (splitAt '\n' cs)

/-- The pieces in order with a line feed between neighbours. -/
def joinLines (pieces : List (List Char)) : List Char :=
  List.intercalate ['\n'] pieces

def countNewlines (cs : List Char) : Nat :=
  cs.count '\n'

/-- What follows `start` in `cs`, when `cs` begins with it. -/
def dropStart? (start : List Char) (cs : List Char) : Option (List Char) :=
  if start.isPrefixOf cs then some (cs.drop start.length) else none

/-- What stands before `ending` in `cs`, when `cs` ends with it. -/
def dropEnd? (ending : List Char) (cs : List Char) : Option (List Char) :=
  if ending.isSuffixOf cs then some (cs.take (cs.length - ending.length)) else none

/-- Every `c` of a text written as `replacement`. -/
def substitute (c : Char) (replacement : String) (s : String) : String :=
  String.ofList (s.toList.flatMap fun x => if x = c then replacement.toList else [x])

/-- The number of bytes of a text in UTF-8. -/
def byteSize : List Char → Nat
  | [] => 0
  | c :: rest => c.utf8Size + byteSize rest

@[simp] theorem byteSize_append (cs ds : List Char) :
    byteSize (cs ++ ds) = byteSize cs + byteSize ds := by
  induction cs with
  | nil => simp [byteSize]
  | cons c cs ih => simp [byteSize, ih, Nat.add_assoc]

@[simp] theorem countNewlines_append (cs ds : List Char) :
    countNewlines (cs ++ ds) = countNewlines cs + countNewlines ds :=
  List.count_append

end ComponentDocs.Text
