import ComponentDocs.Report.Basic

/-!
# Reports in Markdown

One page: an index of all components by group, and a section for each component with its facts, its
description, a table of its properties and a list of its methods.
-/

namespace ComponentDocs

open Text

namespace Navigation

/-- A link of the index; links of a named group are indented. -/
def Link.indexLine (indent : String) (link : Link) : String :=
  indent ++ "* [" ++ link.title ++ "](#" ++ Slug.anchor link.title ++ ")\n"

/-- A group in the index; the group without a name has no line of its own. -/
def Group.indexText (group : Group) : String :=
  if group.name.isEmpty then String.join (group.links.map (Link.indexLine ""))
  else "* " ++ group.name ++ "\n" ++ String.join (group.links.map (Link.indexLine "  "))

/-- The index of a report, which is left out when there are no links. -/
def indexText (groups : List Group) : String :=
  if groups.isEmpty then "" else "## Index\n\n" ++ String.join (groups.map Group.indexText) ++ "\n"

end Navigation

/-- A text as code. -/
def codeSpan (text : String) : String :=
  "`" ++ text ++ "`"

/-- A text with its pipes escaped, so that none of them ends a table cell. -/
def escapeCell (text : String) : String :=
  substitute '|' "\\|" text

/-- The row of a property: its decorators and name, its type, its description. -/
def Property.tableRow (property : Property) : String :=
  let decorators := String.join (property.decorators.map fun text => codeSpan text ++ "<br/>")
  let name := decorators ++ codeSpan property.name
  "| " ++ escapeCell name ++ " | `" ++ escapeCell property.type ++ "` | " ++
    substitute '\n' "<br/>" (escapeCell property.description) ++ " |"

/-- The list item of a method; further lines of its description are indented. -/
def Method.listItem (method : Method) : String :=
  let decorators := String.join (method.decorators.map fun text => codeSpan text ++ " ")
  let name := decorators ++ codeSpan method.name
  let description :=
    if method.description.isEmpty then ""
    else ": " ++ substitute '\n' "\n  " method.description
  "* " ++ name ++ description

namespace ComponentDoc

/-- The list of facts about a component. -/
def facts (doc : ComponentDoc) : List String :=
  (if doc.groupName.isEmpty then [] else ["* Group: " ++ doc.groupName]) ++
  (doc.selector.map fun selector => "* Selector: " ++ codeSpan selector).toList ++
  (doc.module.map fun module =>
    "* Module: " ++ codeSpan module.name ++ " (" ++ module.file ++ ")").toList ++
  (doc.bases.head?.map fun base => "* Extends: " ++ codeSpan base).toList ++
  ["* Class: " ++ codeSpan doc.className ++ " (" ++ doc.file ++ ")"]

def propertyTable (properties : List Property) : List String :=
  if properties.isEmpty then []
  else
    ["#### Properties\n", "| Name | Type | Description |", "|------|------|-------------|"] ++
      properties.map Property.tableRow ++ [""]

def methodList (methods : List Method) : List String :=
  if methods.isEmpty then []
  else ["#### Methods\n"] ++ methods.map Method.listItem ++ [""]

/-- The lines of a component's section. -/
def sectionLines (doc : ComponentDoc) : List String :=
  ["### " ++ doc.componentName ++ "\n"] ++ doc.facts ++ [""] ++
    (if doc.description.isEmpty then [] else [doc.description, ""]) ++
    propertyTable doc.api.properties ++ methodList doc.api.methods

end ComponentDoc

/-- The Markdown page of a report. -/
def Report.markdownText (report : Report) : String :=
  Navigation.indexText report.navigation ++
    String.join (report.project.components.map fun doc =>
      "\n".intercalate doc.sectionLines ++ "\n")

end ComponentDocs
