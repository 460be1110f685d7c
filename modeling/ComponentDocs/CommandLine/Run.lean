import ComponentDocs.CommandLine.Arguments
import ComponentDocs.CommandLine.Selection
import ComponentDocs.Report.Text

/-!
# A run of the program

A run takes the files and the arguments, and has an exit code, two texts and the files after it.
The order of the work decides which failure is reported: first the format, then the inputs, then
reading, documenting and writing.  A file that cannot be parsed is only reported.
-/

namespace ComponentDocs.CommandLine

/-- Reads and parses one file.  A file with a fault is reported and yields nothing. -/
def readSource (tree : FileTree) (path : String) :
    Logged Event (Except Failure (Option SourceFile)) :=
  match tree.readText path with
  | .error e => pure (.error (.unreadable path e))
  | .ok text => do
    match ← (SourceFile.parse path text).mapEvents (.remark path) with
    | .ok file => return .ok (some file)
    | .error e => do
      Logged.log (.skippedFile path e)
      return .ok none

/-- The files that can be parsed, up to the first one that cannot be read. -/
def readSources (tree : FileTree) : List String → Logged Event (Except Failure (List SourceFile))
  | [] => pure (.ok [])
  | path :: paths => do
    match ← readSource tree path with
    | .error failure => return .error failure
    | .ok file =>
      match ← readSources tree paths with
      | .error failure => return .error failure
      | .ok files => return .ok (file.toList ++ files)

/-- The text of the report on the selected files. -/
def reportText (tree : FileTree) (arguments : Arguments) :
    Logged Event (Except Failure String) :=
  match Format.ofName? arguments.format with
  | none => pure (.error (.unknownFormat arguments.format))
  | some format => do
    match ← selectFiles tree arguments.inputs with
    | .error failure => return .error failure
    | .ok paths => do
      Logged.log (.analyzing paths.length)
      match ← readSources tree paths with
      | .error failure => return .error failure
      | .ok program =>
        match ← Project.document program arguments.options with
        | .error cycle => return .error (.cyclic cycle)
        | .ok project =>
          return .ok ((Report.ofProject project arguments.urlPrefix).text format)

/-- The tree with a text written to a path, and the failure if there is one.  The directories above
the path are created first. -/
def writeOutput (tree : FileTree) (path text : String) : FileTree × Option Failure :=
  let above := Path.parentPieces (Path.pieces path)
  match tree.ensureDirectories above with
  | (made, some e) => (made, some (.directoryNotCreated (Path.ofPieces above) e))
  | (made, none) =>
    match made.writeFile path text.toUTF8 with
    | .error e => (made, some (.fileNotWritten path e))
    | .ok written => (written, none)

structure Outcome where
  exitCode : Nat
  stdout : String
  /-- Lines of the error output. -/
  stderr : List String
  tree : FileTree
  deriving DecidableEq

/-- The lines of the events that are shown at a verbosity. -/
def logLines (verbosity : Nat) (events : List Event) : List String :=
  (events.filter fun event => event.level.rank ≤ verbosity).map Event.text

/-- The lines of the texts, each of which ends with a line feed when it is printed. -/
def toLines (texts : List String) : List String :=
  (Text.lines (texts.flatMap fun text => text.toList ++ ['\n'])).map String.ofList

namespace Outcome

def usageError (tree : FileTree) : Outcome :=
  ⟨2, "", [], tree⟩

def failed (log : List String) (failure : Failure) (tree : FileTree) : Outcome :=
  ⟨1, "", toLines (log ++ [failure.text]), tree⟩

def succeeded (log : List String) (stdout : String) (tree : FileTree) : Outcome :=
  ⟨0, stdout, toLines log, tree⟩

end Outcome

/-- A run with arguments that have been understood. -/
def perform (tree : FileTree) (arguments : Arguments) : Outcome :=
  let report := reportText tree arguments
  let log := logLines arguments.verbosity report.events
  match report.value with
  | .error failure => .failed log failure tree
  | .ok text =>
    match arguments.output with
    | none => .succeeded log text tree
    | some path =>
      match writeOutput tree path text with
      | (tree, some failure) => .failed log failure tree
      | (tree, none) => .succeeded log "" tree

/-- A run of the program. -/
def run (tree : FileTree) (args : List String) : Outcome :=
  match Arguments.parse args with
  | none => .usageError tree
  | some arguments => perform tree arguments

end ComponentDocs.CommandLine
