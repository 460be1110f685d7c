import ComponentDocs.Text.Lines

/-!
# Paths

A path is kept as it was written.  Two paths are the same when their parts are: doubled slashes and
`.` in the middle do not count, a `.` at the start does.  Paths are ordered part by part.
-/

namespace ComponentDocs.Path

/-- The texts between the slashes of a path, empty ones included. -/
def pieces (path : String) : List String :=
  (Text.splitAt '/' path.toList).map String.ofList

def ofPieces (pieces : List String) : String :=
  "/".intercalate pieces

/-- A piece that names an entry of a directory. -/
def isName (piece : String) : Bool :=
  piece != "" && piece != "." && piece != ".."

inductive Part where
  | root
  | current
  | parent
  | name (text : String)
  deriving DecidableEq

namespace Part

/-- What a piece that does not come first stands for. -/
def ofPiece? (piece : String) : Option Part :=
  if piece = "" ∨ piece = "." then none
  else if piece = ".." then some .parent
  else some (.name piece)

def rank : Part → Nat
  | .root => 0
  | .current => 1
  | .parent => 2
  | .name _ => 3

/-- The root comes first, then `.`, then `..`, then names by code point. -/
def order : Part → Part → Ordering
  | .name a, .name b => compare a b
  | p, q => compare p.rank q.rank

end Part

/-- The parts that make up a path. -/
def parts (path : String) : List Part :=
  match pieces path with
  | [] => []
  | first :: rest =>
    let start :=
      if first = "." then [Part.current]
      else if first = "" ∧ rest ≠ [] then [Part.root]
      else (Part.ofPiece? first).toList
    start ++ rest.filterMap Part.ofPiece?

def orderParts : List Part → List Part → Ordering
  | [], [] => .eq
  | [], _ :: _ => .lt
  | _ :: _, [] => .gt
  | p :: ps, q :: qs => (p.order q).then (orderParts ps qs)

def order (a b : String) : Ordering :=
  orderParts (parts a) (parts b)

def same (a b : String) : Bool :=
  order a b == .eq

/-- Paths in ascending order; the same path twice keeps the order of the list. -/
def sort (paths : List String) : List String :=
  paths.mergeSort fun a b => order a b != .gt

/-- Drops each path that is the same as the one before it, which was `last` for the first. -/
def dropRepeatsAfter (last : String) : List String → List String
  | [] => []
  | path :: rest =>
    if same last path then dropRepeatsAfter last rest else path :: dropRepeatsAfter path rest

/-- Drops each path that is the same as the one before it. -/
def dropRepeats : List String → List String
  | [] => []
  | path :: rest => path :: dropRepeatsAfter path rest

/-- A path one step below another. -/
def join (base name : String) : String :=
  if base.toList.getLast? = some '/' then base ++ name else base ++ "/" ++ name

/-- A piece that stands for a part of the path. -/
def isPart (index : Nat) (piece : String) : Bool :=
  piece != "" && (piece != "." || index == 0)

/-- The pieces up to the last one that stands for a part. -/
def dropIdlePieces (pieces : List String) : List String :=
  ((pieces.zipIdx.reverse.dropWhile fun (piece, index) => !isPart index piece).reverse).map Prod.fst

/-- The pieces of the path above a path. -/
def parentPieces (pieces : List String) : List String :=
  dropIdlePieces (dropIdlePieces pieces).dropLast

theorem length_dropIdlePieces_le (pieces : List String) :
    (dropIdlePieces pieces).length ≤ pieces.length := by
  have h := (List.dropWhile_sublist (l := pieces.zipIdx.reverse)
    fun (piece, index) => !isPart index piece).length_le
  simpa [dropIdlePieces] using h

theorem length_parentPieces_lt {pieces : List String} (h : pieces ≠ []) :
    (parentPieces pieces).length < pieces.length := by
  have houter := length_dropIdlePieces_le (dropIdlePieces pieces).dropLast
  have hinner := length_dropIdlePieces_le pieces
  have hpos := List.length_pos_iff.2 h
  rw [List.length_dropLast] at houter
  unfold parentPieces
  omega

/-- The last piece of a path ends in a dot and this extension, after at least one more character. -/
def hasExtension (extension : String) (path : String) : Bool :=
  let name := ((pieces path).getLast?.getD "").toList
  let ending := '.' :: extension.toList
  ending.isSuffixOf name && ending.length < name.length

end ComponentDocs.Path
