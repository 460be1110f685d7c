import ComponentDocs.Text.Letter

/-!
# Extent of literals and comments

For each kind of token whose text is not fixed, a function that takes the characters after the
opening one and counts how many of them still belong to the token.  Every literal is as long as
possible.
-/

namespace ComponentDocs.Literal

open Text

def isWordStart (c : Char) : Bool :=
  isAsciiLetter c || c == '_' || c == '$'

def isWordPart (c : Char) : Bool :=
  isWordStart c || isAsciiDigit c

def wordLength (cs : List Char) : Nat :=
  (cs.takeWhile isWordPart).length

/-! ## Numbers -/

def isDigitPart (c : Char) : Bool :=
  isAsciiDigit c || c == '_'

def isRadixMark (c : Char) : Bool :=
  "xXbBoO".toList.contains c

def isRadixDigit (c : Char) : Bool :=
  isDigitPart c || ('a' ≤ c && c ≤ 'f') || ('A' ≤ c && c ≤ 'F')

/-- A point counts only with a digit after it. -/
def fractionLength : List Char → Nat
  | point :: digit :: rest =>
    if point = '.' ∧ isAsciiDigit digit then 2 + (rest.takeWhile isDigitPart).length else 0
  | _ => 0

/-- `signed` digits of an exponent, or nothing when there is none. -/
def exponentDigits (signed : Nat) (cs : List Char) : Nat :=
  match (cs.takeWhile isAsciiDigit).length with
  | 0 => 0
  | n + 1 => signed + (n + 1)

/-- An exponent mark counts only with digits after it, which may have a sign. -/
def exponentLength : List Char → Nat
  | mark :: sign :: rest =>
    if mark = 'e' ∨ mark = 'E' then
      if sign = '+' ∨ sign = '-' then exponentDigits 2 rest else exponentDigits 1 (sign :: rest)
    else 0
  | _ => 0

def decimalLength (cs : List Char) : Nat :=
  let whole := (cs.takeWhile isDigitPart).length
  let fraction := fractionLength (cs.drop whole)
  whole + fraction + exponentLength (cs.drop (whole + fraction))

/-- Digits after a radix mark; nothing without a mark and at least one digit. -/
def radixLength : List Char → Nat
  | mark :: rest =>
    if isRadixMark mark then
      match (rest.takeWhile isRadixDigit).length with
      | 0 => 0
      | n + 1 => 1 + (n + 1)
    else 0
  | [] => 0

/-- Rest of a number that starts with `first`. -/
def numberLength (first : Char) (cs : List Char) : Nat :=
  if first = '0' ∧ radixLength cs ≠ 0 then radixLength cs else decimalLength cs

/-! ## Quoted text -/

/-- Rest of a quoted literal and whether the closing quote was found.  A backslash takes the next
character with it, which may not be a line feed.  Without a closing quote the count stops at the
first character that cannot belong to the literal: a line feed unless `multiline`, or a lone
backslash. -/
def quotedLength (quote : Char) (multiline : Bool) : List Char → Bool × Nat
  | [] => (false, 0)
  | c :: rest =>
    if c = quote then (true, 1)
    else if c = '\\' then
      match rest with
      | [] => (false, 0)
      | escaped :: after =>
        if escaped = '\n' then (false, 0)
        else
          let (closed, n) := quotedLength quote multiline after
          (closed, n + 2)
    else if c = '\n' ∧ multiline = false then (false, 0)
    else
      let (closed, n) := quotedLength quote multiline rest
      (closed, n + 1)

/-! ## Comments -/

/-- Rest of a line comment: up to the line feed, which is not part of it. -/
def lineCommentLength (cs : List Char) : Nat :=
  (cs.takeWhile (· != '\n')).length

/-- Rest of a block comment after its opening mark, closing mark included. -/
def blockCommentLength? : List Char → Option Nat
  | [] => none
  | [_] => none
  | c :: d :: rest =>
    if c = '*' ∧ d = '/' then some 2 else (blockCommentLength? (d :: rest)).map (· + 1)

/-! ## Regular expressions -/

/-- Rest of the body of a regular expression, closing slash included.  A slash does not close it
inside a character class or after a backslash.  A body stays on its line. -/
def regexBodyLength? (inClass : Bool) : List Char → Option Nat
  | [] => none
  | c :: rest =>
    if c = '\n' ∨ c = '\r' then none
    else if c = '\\' then
      match rest with
      | [] => none
      | escaped :: after =>
        if escaped = '\n' then none else (regexBodyLength? inClass after).map (· + 2)
    else if c = '[' then (regexBodyLength? true rest).map (· + 1)
    else if c = ']' then (regexBodyLength? false rest).map (· + 1)
    else if c = '/' ∧ inClass = false then some 1
    else (regexBodyLength? inClass rest).map (· + 1)

/-- Rest of a regular expression literal after its opening slash: body, closing slash and the
letters of its flags. -/
def regexLength? (cs : List Char) : Option Nat :=
  (regexBodyLength? false cs).map fun body =>
    body + ((cs.drop body).takeWhile isAsciiLetter).length

end ComponentDocs.Literal
