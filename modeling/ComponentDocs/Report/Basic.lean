import ComponentDocs.Navigation

/-!
# Reports

A report is the documentation of a program with its navigation.  It is written in one of two
formats.
-/

namespace ComponentDocs

structure Report where
  navigation : List Navigation.Group
  project : Project

def Report.ofProject (project : Project) (urlPrefix : String) : Report :=
  ⟨Navigation.groups project.components urlPrefix, project⟩

inductive Format where
  | json
  | markdown
  deriving DecidableEq

namespace Format

def ofName? : String → Option Format
  | "json" => some .json
  | "markdown" => some .markdown
  | "md" => some .markdown
  | _ => none

/-- What is said about a name that `ofName?` does not know. -/
def unknownMessage (name : String) : String :=
  "unknown format: " ++ name ++ ". Use json or markdown"

def extension : Format → String
  | .json => "json"
  | .markdown => "md"

end Format

end ComponentDocs
