import ComponentDocs.Declaration.Basic
import ComponentDocs.DocBlock

/-!
# Documented members

The API of a class is its properties and methods that are not hidden: those without access
modifier or marked `public`.  Private names, accessors, constructors and index signatures are left
out.
-/

namespace ComponentDocs

/-- A member's visibility: its access modifier, or `none` without one. -/
abbrev Visibility := Option Access

namespace Modifiers

/-- A private name is private whatever its modifier says. -/
def visibility (modifiers : Modifiers) : Visibility :=
  if modifiers.isPrivateName then some .privateAccess else modifiers.access

end Modifiers

def Visibility.isDocumented (visibility : Visibility) : Bool :=
  visibility == none || visibility == some .publicAccess

structure Property where
  name : String
  /-- Type as written in the declaring class, empty without annotation. -/
  type : String
  /-- Decorators as written, first one first. -/
  decorators : List String
  description : String
  visibility : Visibility
  deriving DecidableEq

structure Method where
  /-- The name with `()` after it. -/
  name : String
  decorators : List String
  description : String
  visibility : Visibility
  deriving DecidableEq

structure Api where
  properties : List Property
  methods : List Method
  deriving DecidableEq

namespace Member

def visibility (member : Member) : Visibility :=
  member.modifiers.visibility

def decoratorTexts (member : Member) : List String :=
  member.decorators.map Decorator.text

/-- The documented property that a member declares. -/
def property? (member : Member) : Option Property :=
  if member.kind = .property ∧ member.visibility.isDocumented then
    some ⟨member.name, member.type.getD "", member.decoratorTexts,
      DocBlock.description member.doc, member.visibility⟩
  else none

/-- The documented method that a member declares. -/
def method? (member : Member) : Option Method :=
  if member.kind = .method ∧ member.visibility.isDocumented then
    some ⟨member.name ++ "()", member.decoratorTexts,
      DocBlock.description member.doc, member.visibility⟩
  else none

end Member

namespace Api

def empty : Api :=
  ⟨[], []⟩

def isEmpty (api : Api) : Bool :=
  api.properties.isEmpty && api.methods.isEmpty

/-- The documented members of a class in order of declaration. -/
def ofMembers (members : List Member) : Api :=
  ⟨members.filterMap Member.property?, members.filterMap Member.method?⟩

end Api

end ComponentDocs
