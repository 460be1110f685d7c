import ComponentDocs.Files.Glob
import ComponentDocs.Inheritance
import ComponentDocs.Report.Basic

/-!
# Selecting the input files

An input is a file, a directory, which stands for all TypeScript files below it, or a glob
pattern, of whose matches the TypeScript files count.  The selected files are sorted by path, and
the same path is taken once.
-/

namespace ComponentDocs.CommandLine

/-- Why a run fails. -/
inductive Failure where
  | unknownFormat (name : String)
  | invalidPattern (pattern : String) (error : Glob.Error)
  | unreadable (path : String) (error : FileError)
  | cyclic (cycle : Cycle)
  | directoryNotCreated (path : String) (error : FileError)
  | fileNotWritten (path : String) (error : FileError)
  deriving DecidableEq

namespace Failure

/-- What the run was about to do, or what is wrong with its arguments. -/
def context : Failure → String
  | .unknownFormat name => Format.unknownMessage name
  | .invalidPattern pattern _ => "invalid glob pattern: " ++ pattern
  | .unreadable path _ => "failed to read " ++ path
  | .cyclic _ => "failed to build documentation"
  | .directoryNotCreated path _ => "failed to create directory: " ++ path
  | .fileNotWritten path _ => "failed to write " ++ path

def cause? : Failure → Option String
  | .unknownFormat _ => none
  | .invalidPattern _ error => some error.message
  | .unreadable _ error => some error.message
  | .cyclic cycle => some cycle.message
  | .directoryNotCreated _ error => some error.message
  | .fileNotWritten _ error => some error.message

def text (failure : Failure) : String :=
  "Error: " ++ failure.context ++
    match failure.cause? with
    | none => ""
    | some cause => "\n\nCaused by:\n    " ++ cause

end Failure

/-- The pattern for the TypeScript files below a directory. -/
def directoryPattern (directory : String) : String :=
  String.ofList (Text.dropEndWhile (fun c => c == '/' || c == '\\') directory.toList) ++ "/**/*.ts"

/-- The pattern that an input stands for when it is no file. -/
def inputPattern (tree : FileTree) (input : String) : String :=
  if tree.isDirectory input then directoryPattern input else input

/-- The files that one input stands for. -/
def selectInput (tree : FileTree) (input : String) :
    Logged Event (Except Failure (List String)) :=
  if tree.isFile input then pure (.ok [input])
  else
    let pattern := inputPattern tree input
    match Glob.Pattern.parse pattern with
    | .error e => pure (.error (.invalidPattern pattern e))
    | .ok parsed => do
      let found := (Glob.files tree parsed).filter (Path.hasExtension "ts")
      Logged.logIf found.isEmpty (.noFilesMatched pattern)
      return .ok found

/-- The files that the inputs stand for, input by input, up to the first invalid pattern. -/
def collectInputs (tree : FileTree) : List String → Logged Event (Except Failure (List String))
  | [] => pure (.ok [])
  | input :: inputs => do
    match ← selectInput tree input with
    | .error failure => return .error failure
    | .ok found =>
      match ← collectInputs tree inputs with
      | .error failure => return .error failure
      | .ok others => return .ok (found ++ others)

/-- The selected files in path order, each once. -/
def selectFiles (tree : FileTree) (inputs : List String) :
    Logged Event (Except Failure (List String)) := do
  match ← collectInputs tree inputs with
  | .error failure => return .error failure
  | .ok paths => return .ok (Path.dropRepeats (Path.sort paths))

end ComponentDocs.CommandLine
