import ComponentDocs.Text.Blank
import ComponentDocs.Text.Lines

/-!
# Options of an analysis

Which decorators register components and modules, which files take part, how file names are
reported, and what happens to inherited members that a subclass declares again.  File names are
compared after normalising: backslashes count as slashes, leading `./` are dropped, and a name
below the root directory is cut to its part below it.
-/

namespace ComponentDocs

/-- What to do with an inherited member whose name the subclass already lists. -/
inductive OverridePolicy where
  | concatenate
  | childWins
  deriving DecidableEq

structure Options where
  rootDir : String
  files : List String
  componentDecorators : List String
  moduleDecorators : List String
  overridePolicy : OverridePolicy
  deriving DecidableEq

namespace Options

open Text

def default : Options :=
  ⟨"./", [], ["Component"], ["NgModule"], .concatenate⟩

/-- Slashes in place of backslashes. -/
def forwardSlashes (path : List Char) : List Char :=
  path.map fun c => if c = '\\' then '/' else c

/-- A path without any `./` at its start. -/
def dropDotSlashes : List Char → List Char
  | '.' :: '/' :: rest => dropDotSlashes rest
  | path => path

/-- The spelling of the root directory that names are compared with. -/
def root (options : Options) : List Char :=
  dropEndWhile (· == '/') (dropDotSlashes (forwardSlashes options.rootDir.toList))

/-- A file name in the form in which it is reported: relative to the root directory when it lies
below it. -/
def relativeChars (options : Options) (name : List Char) : List Char :=
  let name := dropDotSlashes (forwardSlashes name)
  let root := options.root
  if root = [] ∨ root = ['.'] then name
  else (dropStart? (root ++ ['/']) name).getD name

def relativeName (options : Options) (name : String) : String :=
  String.ofList (options.relativeChars name.toList)

/-- An empty file list takes in every file. -/
def includes (options : Options) (name : String) : Bool :=
  options.files.isEmpty ||
    options.files.any fun file => options.relativeName file == options.relativeName name

def isComponentDecorator (options : Options) (name : String) : Bool :=
  options.componentDecorators.contains name

def isModuleDecorator (options : Options) (name : String) : Bool :=
  options.moduleDecorators.contains name

end Options

end ComponentDocs
