/-!
# JSON texts

The values that a report needs, and their written form: two spaces per level, one item or field per
line, and nothing between the brackets of an empty list or object.  Inside a string only quotes,
backslashes and control characters are escaped.
-/

namespace ComponentDocs

inductive Json where
  | null
  | bool (value : Bool)
  | string (value : String)
  | array (items : List Json)
  | object (fields : List (String × Json))

namespace Json

def hexDigit (n : Nat) : Char :=
  if n < 10 then Char.ofNat (0x30 + n) else Char.ofNat (0x57 + n)

def escapeChar (c : Char) : List Char :=
  if c = '"' then ['\\', '"']
  else if c = '\\' then ['\\', '\\']
  else if c = '\x08' then ['\\', 'b']
  else if c = '\x0c' then ['\\', 'f']
  else if c = '\n' then ['\\', 'n']
  else if c = '\r' then ['\\', 'r']
  else if c = '\t' then ['\\', 't']
  else if c.toNat < 0x20 then
    ['\\', 'u', '0', '0', hexDigit (c.toNat / 16), hexDigit (c.toNat % 16)]
  else [c]

def writeString (s : String) : List Char :=
  '"' :: (s.toList.flatMap escapeChar ++ ['"'])

/-- A new line at this level. -/
def newLine (level : Nat) : List Char :=
  '\n' :: List.replicate (2 * level) ' '

mutual

/-- The written form of a value whose line is at this level. -/
def write (level : Nat) : Json → List Char
  | .null => "null".toList
  | .bool true => "true".toList
  | .bool false => "false".toList
  | .string value => writeString value
  | .array [] => ['[', ']']
  | .array (item :: items) =>
    '[' :: newLine (level + 1) ++ write (level + 1) item ++ writeItems (level + 1) items ++
      newLine level ++ [']']
  | .object [] => ['\x7b', '\x7d']
  | .object ((key, value) :: fields) =>
    '\x7b' :: newLine (level + 1) ++ writeString key ++ [':', ' '] ++ write (level + 1) value ++
      writeFields (level + 1) fields ++ newLine level ++ ['\x7d']

/-- The items after the first one. -/
def writeItems (level : Nat) : List Json → List Char
  | [] => []
  | item :: items => ',' :: newLine level ++ write level item ++ writeItems level items

/-- The fields after the first one. -/
def writeFields (level : Nat) : List (String × Json) → List Char
  | [] => []
  | (key, value) :: fields =>
    ',' :: newLine level ++ writeString key ++ [':', ' '] ++ write level value ++
      writeFields level fields

end

/-- The written form of a document. -/
def pretty (json : Json) : List Char :=
  write 0 json

def strings (texts : List String) : Json :=
  .array (texts.map .string)

def optional (text : Option String) : Json :=
  match text with
  | some text => .string text
  | none => .null

end Json

end ComponentDocs
