import ComponentDocs.Text.CodeRun

/-!
# Blank characters and trimming

`isBlank` is the property White_Space: the space, the controls from tab to carriage return, the
next line control, the no-break space and the Unicode spaces and separators.  Zero-width
characters are not blank.  Trimming removes blank characters from one end of a text or from both.
-/

namespace ComponentDocs.Text

/-- White space outside ASCII. -/
def blankRuns : List CodeRun :=
  [⟨0x85, 0x85, 1⟩, ⟨0xA0, 0xA0, 1⟩, ⟨0x1680, 0x1680, 1⟩, ⟨0x2000, 0x200A, 1⟩, ⟨0x2028, 0x2029, 1⟩,
    ⟨0x202F, 0x202F, 1⟩, ⟨0x205F, 0x205F, 1⟩, ⟨0x3000, 0x3000, 1⟩]

def isBlank (c : Char) : Bool :=
  if isAscii c then c == ' ' || (0x09 ≤ c.toNat && c.toNat ≤ 0x0D) else inRuns blankRuns c

/-- `cs` without the characters at its end that satisfy `p`. -/
def dropEndWhile (p : Char → Bool) (cs : List Char) : List Char :=
  (cs.reverse.dropWhile p).reverse

def trimStart (cs : List Char) : List Char :=
  cs.dropWhile isBlank

def trimEnd (cs : List Char) : List Char :=
  dropEndWhile isBlank cs

def trim (cs : List Char) : List Char :=
  trimEnd (trimStart cs)

/-- A text without the blank characters at its two ends. -/
def trimmed (s : String) : String :=
  String.ofList (trim s.toList)

end ComponentDocs.Text
