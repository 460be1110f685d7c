import ComponentDocs.Declaration.Class
import ComponentDocs.Text.Printable

/-!
# Log events

The events of an analysis, the level at which each is shown, and its line in the log: the level, a
message and fields.  Names that come from a source file as they are stand in quotes.
-/

namespace ComponentDocs

inductive Level where
  | warn
  | info
  | debug
  | trace
  deriving DecidableEq

namespace Level

def text : Level → String
  | .warn => "WARN"
  | .info => "INFO"
  | .debug => "DEBUG"
  | .trace => "TRACE"

/-- Levels from the most to the least important. -/
def rank : Level → Nat
  | .warn => 0
  | .info => 1
  | .debug => 2
  | .trace => 3

end Level

inductive Event where
  | noFilesMatched (pattern : String)
  | analyzing (files : Nat)
  | skippedFile (path : String) (error : SyntaxError)
  | remark (file : String) (remark : Remark)
  | notInFileList (file : String)
  | duplicateClass (name file : String) (line : Nat) (first : String)
  | noComponentTag (className : String)
  | configurationNotObject (className decorator : String)
  | selectorNotString (className : String)
  | registryBuilt (classes modules : Nat)
  | unknownAncestor (className : String)
  | resolvingAncestor (className parent : String)
  | assembled (documented other : Nat)
  deriving DecidableEq

namespace Event

def level : Event → Level
  | .noFilesMatched _ | .skippedFile _ _ | .duplicateClass _ _ _ _ => .warn
  | .analyzing _ => .info
  | .notInFileList _ | .resolvingAncestor _ _ => .trace
  | _ => .debug

/-! ## Escapes -/

/-- Lower-case hexadecimal digits without leading zeros. -/
def hexText (n : Nat) : String :=
  String.ofList (Nat.toDigits 16 n)

/-- A character written as its code point. -/
def codeText (c : Char) : String :=
  "\\u\x7b" ++ hexText c.toNat ++ "\x7d"

/-- A character of a quoted field: quotes, backslashes and what cannot be printed are escaped. -/
def quotedChar (c : Char) : String :=
  if c = '"' then "\\\""
  else if c = '\\' then "\\\\"
  else if c = '\n' then "\\n"
  else if c = '\r' then "\\r"
  else if c = '\t' then "\\t"
  else if c = '\x00' then "\\0"
  else if Text.isPrintable c then c.toString
  else codeText c

def quoted (text : String) : String :=
  "\"" ++ String.join (text.toList.map quotedChar) ++ "\""

/-- The ASCII controls that a terminal acts upon. -/
def terminalControls : List (Char × String) :=
  [('\x1b', "\\x1b"), ('\x07', "\\x07"), ('\x08', "\\x08"), ('\x0c', "\\x0c"), ('\x7f', "\\x7f")]

/-- A character of a message: a control that a terminal acts upon is escaped. -/
def messageChar (c : Char) : String :=
  match terminalControls.lookup c with
  | some escape => escape
  | none => if 0x80 ≤ c.toNat ∧ c.toNat < 0xA0 then codeText c else c.toString

def harmless (message : String) : String :=
  String.join (message.toList.map messageChar)

/-! ## Lines -/

def message : Event → String
  | .noFilesMatched pattern => "no files matched: " ++ pattern
  | .analyzing _ => "analyzing"
  | .skippedFile path error => "skipping " ++ path ++ ": " ++ error.message
  | .remark _ .computedBase => "heritage is not a plain type reference"
  | .remark _ (.anonymousClass _) => "skipping anonymous class"
  | .notInFileList _ => "not in file list"
  | .duplicateClass _ _ _ _ => "duplicate class name, keeping the first declaration"
  | .noComponentTag _ => "component has no @component tag"
  | .configurationNotObject _ _ => "component configuration is not an object literal"
  | .selectorNotString _ => "selector is not a string literal"
  | .registryBuilt _ _ => "class registry built"
  | .unknownAncestor _ => "ancestor not found, using empty API"
  | .resolvingAncestor _ _ => "resolving ancestor"
  | .assembled _ _ => "documentation assembled"

/-- The fields of an event with their names. -/
def fields : Event → List (String × String)
  | .noFilesMatched _ | .skippedFile _ _ => []
  | .analyzing files => [("files", toString files)]
  | .remark file .computedBase => [("file", quoted file)]
  | .remark file (.anonymousClass line) => [("file", quoted file), ("line", toString line)]
  | .notInFileList file => [("file", file)]
  | .duplicateClass name file line first =>
    [("class", name), ("file", file), ("line", toString line), ("first", first)]
  | .noComponentTag className => [("class", className)]
  | .configurationNotObject className decorator =>
    [("class", className), ("decorator", decorator)]
  | .selectorNotString className => [("class", className)]
  | .registryBuilt classes modules =>
    [("classes", toString classes), ("modules", toString modules)]
  | .unknownAncestor className => [("class", quoted className)]
  | .resolvingAncestor className parent =>
    [("class", quoted className), ("parent", quoted parent)]
  | .assembled documented other =>
    [("documented", toString documented), ("other", toString other)]

/-- The event as it stands in the log. -/
def text (event : Event) : String :=
  event.level.text ++ " " ++ harmless event.message ++
    String.join (event.fields.map fun (name, value) => " " ++ name ++ "=" ++ value)

end Event

end ComponentDocs
