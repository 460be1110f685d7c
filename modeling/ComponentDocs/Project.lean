import ComponentDocs.Declaration.File
import ComponentDocs.Inheritance

/-!
# Documentation of a program

The classes of the registry in two parts: the documented components with their full API, and all
other classes as they stand in the registry.  Both keep the order of discovery.  An inheritance
cycle above a documented component makes the documentation fail; other cycles do not matter.
-/

namespace ComponentDocs

/-- The documentation of one component. -/
structure ComponentDoc where
  className : String
  componentName : String
  groupName : String
  description : String
  file : String
  selector : Option String
  module : Option Module
  /-- The direct base class, if there is one. -/
  bases : List String
  api : Api
  deriving DecidableEq

structure Project where
  components : List ComponentDoc
  others : OrderedMap ClassInfo
  deriving DecidableEq

namespace Project

def empty : Project :=
  ⟨[], .empty⟩

/-- The documentation of a component with this full API. -/
def componentDoc (registry : Registry) (info : ClassInfo) (api : Api) : ComponentDoc :=
  { className := info.name
    componentName := info.tags.component.getD ""
    groupName := info.tags.group.getD ""
    description := info.tags.description
    file := info.file
    selector := info.registration.bind Registration.selector
    module := registry.moduleFor info.name
    bases := info.base.toList
    api := api }

/-- The documentation so far and the resolver that all components share. -/
structure Draft where
  project : Project
  resolver : Resolver

/-- Adds one class to the part where it belongs. -/
def addClass (registry : Registry) (policy : OverridePolicy) (draft : Draft) (info : ClassInfo) :
    Logged Event (Except Cycle Draft) :=
  if info.isDocumented then do
    match ← registry.resolve policy draft.resolver info.name with
    | (.error cycle, _) => return .error cycle
    | (.ok api, resolver) =>
      let components := draft.project.components ++ [componentDoc registry info api]
      return .ok ⟨{ draft.project with components }, resolver⟩
  else
    pure (.ok { draft with
      project := { draft.project with others := draft.project.others.insert info.name info } })

/-- Adds classes in order, up to the first cycle. -/
def addClasses (registry : Registry) (policy : OverridePolicy) (draft : Draft) :
    List ClassInfo → Logged Event (Except Cycle Draft)
  | [] => pure (.ok draft)
  | info :: rest => do
    match ← addClass registry policy draft info with
    | .error cycle => return .error cycle
    | .ok draft => addClasses registry policy draft rest

/-- The documentation of a program. -/
def document (program : List SourceFile) (options : Options) :
    Logged Event (Except Cycle Project) := do
  let registry ← Registry.build program options
  match ← addClasses registry options.overridePolicy ⟨empty, .empty⟩ registry.classes.values with
  | .error cycle => return .error cycle
  | .ok draft =>
    Logged.log (.assembled draft.project.components.length draft.project.others.size)
    return .ok draft.project

/-- The first component whose class has this name. -/
def component? (project : Project) (className : String) : Option ComponentDoc :=
  project.components.find? fun doc => doc.className == className

def other? (project : Project) (className : String) : Option ClassInfo :=
  project.others.get? className

end Project

end ComponentDocs
