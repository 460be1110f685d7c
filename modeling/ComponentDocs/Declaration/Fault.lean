import ComponentDocs.Token.Basic

/-!
# Faults in a source file

Why a source file cannot be split into declarations, where, and the text of the message.
-/

namespace ComponentDocs

/-- What a name or body was expected for. -/
inductive Fault.Expected where
  | decoratorName
  | classBody
  | privateName
  | typeName
  deriving DecidableEq

/-- The cause of a fault.  `found` is the text of the token at the fault, `none` at the end of the
file. -/
inductive Fault.Cause where
  /-- The bracket `opener` has no closing partner. -/
  | unclosed (opener : String)
  /-- A closing bracket that does not fit the innermost open one. -/
  | mismatched (closer : String)
  /-- A closing bracket where none is open. -/
  | unexpected (closer : String)
  | expected (what : Fault.Expected) (found : Option String)
  /-- Neither a comma nor the closing bracket after an item of a list in these brackets. -/
  | separator (list : Bracket)
  | classBodyOpen
  | memberExpected (found : Option String)
  | parametersExpected
  | typeExpected (found : Option String)
  deriving DecidableEq

/-- A fault with its line, which is `none` at the end of the file. -/
structure Fault where
  line : Option Nat
  cause : Fault.Cause
  deriving DecidableEq

namespace Fault

def Expected.text : Expected → String
  | .decoratorName => "decorator name"
  | .classBody => "class body"
  | .privateName => "private name"
  | .typeName => "type name"

def quoted (text : String) : String :=
  "`" ++ text ++ "`"

def foundText : Option String → String
  | some text => ", found " ++ quoted text
  | none => ", found end of file"

/-- The list that stands between brackets of this form, and its closing bracket. -/
def listText : Bracket → String
  | .paren => "`,` or `)` in argument list"
  | .brace => "`,` or `\x7d` in object literal"
  | .square => "`,` or `]` in array literal"

def Cause.message : Cause → String
  | .unclosed opener => "unclosed " ++ quoted opener
  | .mismatched closer => "mismatched " ++ quoted closer
  | .unexpected closer => "unexpected " ++ quoted closer
  | .expected what found => "expected " ++ what.text ++ foundText found
  | .separator list => "expected " ++ listText list
  | .classBodyOpen => "unterminated class body"
  | .memberExpected none => "expected class member"
  | .memberExpected (some text) => "expected class member" ++ foundText (some text)
  | .parametersExpected => "expected parameter list"
  | .typeExpected none => "expected type"
  | .typeExpected (some text) => "expected type" ++ foundText (some text)

end Fault

/-- A fault of a named file. -/
structure SyntaxError where
  file : String
  line : Nat
  cause : Fault.Cause
  deriving DecidableEq

def SyntaxError.message (e : SyntaxError) : String :=
  e.file ++ ":" ++ toString e.line ++ ": " ++ e.cause.message

end ComponentDocs
