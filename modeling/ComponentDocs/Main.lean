import ComponentDocs.CommandLine.Run

/-!
# The command line program

Reads the files that a run can look at, performs the run and carries out what it changes.
-/

namespace ComponentDocs

/-- The tree with what is at a path, and everything below it if `below` says so. -/
partial def readEntry (below : Bool) (tree : FileTree) (path : String) : IO FileTree := do
  let entry := (← IO.currentDir) / path
  if ← entry.isDir then
    let mut tree := tree.withDirectory path
    if below then
      for child in ← entry.readDir do
        tree ← readEntry true tree (Path.join path child.fileName)
    return tree
  else if ← entry.pathExists then
    return tree.withFile path (← IO.FS.readBinFile entry)
  else
    return tree

/-- Where pieces lead from a location, whether or not there is an entry. -/
def descend (location : Location) : List String → Location
  | [] => location
  | piece :: rest =>
    if piece = ".." then descend location.dropLast rest
    else if Path.isName piece then descend (location ++ [piece]) rest
    else descend location rest

/-- The tree with the entries that a path passes, also those behind a directory that is not there
yet. -/
def readAlong (tree : FileTree) (path : String) : IO FileTree := do
  let pieces := Path.pieces path
  let passed := (List.range pieces.length).map fun n =>
    tree.pathTo (descend (tree.start pieces) (pieces.take (n + 1)))
  (passed.filter (· != "")).foldlM (readEntry false) tree

/-- The path may lead out of the working directory. -/
def mayLeave (path : String) : Bool :=
  (Path.pieces path).head? == some "" || (Path.pieces path).contains ".."

/-- How far pieces lead up from where they start. -/
def rise : List String → Nat
  | [] => 0
  | piece :: rest =>
    if piece = ".." then rise rest + 1
    else if Path.isName piece && piece != "**" then rise rest - 1
    else rise rest

/-- A directory that all matches of a pattern are below: what stands before the first wildcard, and
up from there as far as the rest leads. -/
def stem (pattern : String) : String :=
  let isPlain := fun (piece : String) =>
    !piece.toList.any fun c => c == '*' || c == '?' || c == '['
  let pieces := Path.pieces pattern
  Path.ofPieces (pieces.takeWhile isPlain ++
    List.replicate (rise (pieces.dropWhile isPlain)) ".." ++ ["."])

/-- The tree of the working directory, of what the inputs name outside of it, and of the entries
that lead to the output. -/
def readTree (arguments : CommandLine.Arguments) : IO FileTree := do
  let workdir := toString (← IO.currentDir)
  let tree ← readEntry true ((FileTree.root.withDirectory workdir).enter workdir) "."
  let tree ← (arguments.inputs ++ arguments.output.toList).foldlM readAlong tree
  ((arguments.inputs.filter mayLeave).map stem).foldlM (readEntry true) tree

/-- Creates the directories and writes the files that a run left. -/
def writeChanges (before after : FileTree) : IO Unit := do
  for directory in after.directories do
    unless before.hasDirectory directory do
      IO.FS.createDirAll (after.pathTo directory)
  for (path, bytes) in before.changes after do
    IO.FS.writeBinFile path bytes

end ComponentDocs

open ComponentDocs in
def main (args : List String) : IO UInt32 := do
  let tree ←
    match CommandLine.Arguments.parse args with
    | some arguments => readTree arguments
    | none => pure .root
  let outcome := CommandLine.run tree args
  for line in outcome.stderr do
    IO.eprintln line
  writeChanges tree outcome.tree
  IO.print outcome.stdout
  return UInt32.ofNat outcome.exitCode
