import ComponentDocs.Api
import ComponentDocs.Log
import ComponentDocs.Options

/-!
# The class registry

Every class of the files that take part in an analysis, in order of discovery, and the modules
among them with the names they declare.  The first declaration of a name counts: a later class of
the same name is reported and ignored, its module declarations included, and a name belongs to the
first module that declares it.
-/

namespace ComponentDocs

/-- What a component decorator says about a class. -/
structure Registration where
  decorator : String
  /-- The selector, when it is a string literal. -/
  selector : Option String
  deriving DecidableEq

/-- All that is known about one class. -/
structure ClassInfo where
  name : String
  file : String
  /-- Registered as a component and named by a `@component` tag. -/
  isDocumented : Bool
  base : Option String
  own : Api
  tags : Tags
  registration : Option Registration
  deriving DecidableEq

/-- A module class and the names in its declarations. -/
structure Module where
  name : String
  file : String
  declared : List String
  deriving DecidableEq

def Module.declares (module : Module) (name : String) : Bool :=
  module.declared.contains name

structure Registry where
  classes : OrderedMap ClassInfo
  /-- Modules in order of discovery. -/
  modules : List Module
  /-- The first module that declares each name. -/
  owners : OrderedMap Module

namespace ClassDecl

/-- The registration of a class by its first component decorator, whose argument has to be an
object. -/
def registration (options : Options) (decl : ClassDecl) : Logged Event (Option Registration) :=
  match decl.decorators.find? fun decorator => options.isComponentDecorator decorator.name with
  | none => pure none
  | some decorator =>
    match decorator.arguments.head?.filter Expr.isObject with
    | none => do
      Logged.log (.configurationNotObject decl.name decorator.text)
      return none
    | some config => do
      let selector := (config.field? "selector").bind Expr.string?
      Logged.logIf selector.isNone (.selectorNotString decl.name)
      return some ⟨decorator.name, selector⟩

/-- The module that a class declares by its first module decorator, with the plain names in the
array of its declarations. -/
def module? (options : Options) (file : String) (decl : ClassDecl) : Option Module := do
  let decorator ← decl.decorators.find? fun decorator => options.isModuleDecorator decorator.name
  let config ← decorator.arguments.head?
  let declarations ← (config.field? "declarations").bind Expr.array?
  return ⟨decl.name, file, declarations.filterMap Expr.name?⟩

/-- The registry entry of a class. -/
def info (options : Options) (file : String) (decl : ClassDecl) : Logged Event ClassInfo := do
  let registration ← decl.registration options
  let tags := DocBlock.tags decl.doc
  let isDocumented := registration.isSome && tags.component.isSome
  Logged.logIf (registration.isSome && !isDocumented) (.noComponentTag decl.name)
  return ⟨decl.name, file, isDocumented, decl.base, .ofMembers decl.members, tags, registration⟩

end ClassDecl

namespace Registry

def empty : Registry :=
  ⟨.empty, [], .empty⟩

def get? (registry : Registry) (name : String) : Option ClassInfo :=
  registry.classes.get? name

def size (registry : Registry) : Nat :=
  registry.classes.size

def isEmpty (registry : Registry) : Bool :=
  registry.classes.isEmpty

/-- The first module that declares a name. -/
def moduleFor (registry : Registry) (name : String) : Option Module :=
  registry.owners.get? name

def addModule (registry : Registry) (module : Module) : Registry :=
  { registry with
    modules := registry.modules ++ [module]
    owners := module.declared.foldl (fun owners name => owners.insertNew name module)
      registry.owners }

/-- Adds a class unless its name is taken. -/
def addClass (options : Options) (file : String) (registry : Registry) (decl : ClassDecl) :
    Logged Event Registry :=
  match registry.get? decl.name with
  | some first => do
    Logged.log (.duplicateClass decl.name file decl.line first.file)
    return registry
  | none => do
    let registry :=
      match decl.module? options file with
      | some module => registry.addModule module
      | none => registry
    let info ← decl.info options file
    return { registry with classes := registry.classes.insert info.name info }

/-- Adds the classes of a file, if the file takes part. -/
def addFile (options : Options) (registry : Registry) (file : SourceFile) :
    Logged Event Registry :=
  if options.includes file.name then
    file.classes.foldlM (addClass options (options.relativeName file.name)) registry
  else do
    Logged.log (.notInFileList file.name)
    return registry

/-- The registry of a program. -/
def build (program : List SourceFile) (options : Options) : Logged Event Registry := do
  let registry ← program.foldlM (addFile options) empty
  Logged.log (.registryBuilt registry.size registry.modules.length)
  return registry

end Registry

end ComponentDocs
