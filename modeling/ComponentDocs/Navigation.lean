import ComponentDocs.Project
import ComponentDocs.Slug

/-!
# Navigation

The documented components as links, grouped by the name of their group.  Groups come in the order in
which they first appear, and links keep the order of the components.
-/

namespace ComponentDocs

namespace Navigation

structure Link where
  title : String
  path : String
  deriving DecidableEq

structure Group where
  name : String
  links : List Link
  deriving DecidableEq

/-- A text without slashes at its two ends. -/
def trimSlashes (s : String) : String :=
  String.ofList (Text.dropEndWhile (· == '/') (s.toList.dropWhile (· == '/')))

/-- The path of a component below the trimmed prefix of all paths. -/
def path (above : String) (className : String) : String :=
  if above.isEmpty then Slug.route className else above ++ "/" ++ Slug.route className

/-- Adds a link to the group of this name, or as a new group at the end. -/
def addLink (name : String) (link : Link) : List Group → List Group
  | [] => [⟨name, [link]⟩]
  | group :: groups =>
    if group.name = name then { group with links := group.links ++ [link] } :: groups
    else group :: addLink name link groups

/-- The navigation for documented components, all of whose paths lie below `urlPrefix`. -/
def groups (docs : List ComponentDoc) (urlPrefix : String) : List Group :=
  let above := trimSlashes urlPrefix
  docs.foldl
    (fun groups doc =>
      addLink doc.groupName ⟨doc.componentName, path above doc.className⟩ groups)
    []

end Navigation

end ComponentDocs
