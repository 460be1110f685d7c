import ComponentDocs.Registry

/-!
# Inherited members

The full API of a class is its own members followed by those of its ancestors, nearest first.  An
ancestor that is not registered contributes nothing.  A class that is its own ancestor is an error.

Results are kept in a cache from one request to the next.  Only finished results enter it.
-/

namespace ComponentDocs

/-- The classes of a cycle of base classes, each extending the next; the first comes again as the
last. -/
structure Cycle where
  chain : List String
  deriving DecidableEq

def Cycle.message (cycle : Cycle) : String :=
  "cyclic inheritance: " ++ " -> ".intercalate cycle.chain

namespace Api

/-- `listed` followed by those of `more` whose name is not listed yet. -/
def appendNew {α : Type} (name : α → String) (listed more : List α) : List α :=
  more.foldl
    (fun listed item =>
      if listed.any (fun other => name other == name item) then listed else listed ++ [item])
    listed

/-- An API with the members of an ancestor added. -/
def inherit (policy : OverridePolicy) (own inherited : Api) : Api :=
  match policy with
  | .concatenate =>
    ⟨own.properties ++ inherited.properties, own.methods ++ inherited.methods⟩
  | .childWins =>
    ⟨appendNew Property.name own.properties inherited.properties,
      appendNew Method.name own.methods inherited.methods⟩

end Api

/-- What is kept from one request to the next: the results so far, and the classes whose request is
not finished yet, outermost first. -/
structure Resolver where
  cache : OrderedMap Api
  visiting : List String
  deriving DecidableEq

namespace Resolver

def empty : Resolver :=
  ⟨.empty, []⟩

/-- Begins to visit a class. -/
def enter (resolver : Resolver) (name : String) : Resolver :=
  { resolver with visiting := resolver.visiting ++ [name] }

/-- Ends the visit of the class that was entered last. -/
def leave (resolver : Resolver) : Resolver :=
  { resolver with visiting := resolver.visiting.dropLast }

/-- Keeps a finished result. -/
def remember (resolver : Resolver) (name : String) (api : Api) : Resolver :=
  { resolver with cache := resolver.cache.insert name api }

end Resolver

namespace Registry

/-- The registered names that are not being visited. -/
def unvisited (registry : Registry) (visiting : List String) : List String :=
  registry.classes.keys.filter fun name => !visiting.contains name

theorem unvisited_append (registry : Registry) (visiting : List String) (name : String) :
    registry.unvisited (visiting ++ [name]) =
      (registry.unvisited visiting).filter fun other => other != name := by
  simp only [unvisited, List.filter_filter]
  refine List.filter_congr fun other _ => ?_
  by_cases h : other = name <;> simp [h]

/-- Visiting a registered class leaves fewer to visit. -/
theorem unvisited_length_lt {registry : Registry} {visiting : List String} {name : String}
    {info : ClassInfo} (hinfo : registry.get? name = some info) (hnew : name ∉ visiting) :
    (registry.unvisited (visiting ++ [name])).length < (registry.unvisited visiting).length := by
  rw [unvisited_append]
  refine List.length_filter_lt_length_iff_exists.2 ⟨name, ?_, by simp⟩
  simp [unvisited, OrderedMap.mem_keys_of_get? hinfo, hnew]

/-- The full API of a class and the resolver after the request.  While its base is resolved, the
class is among those being visited; afterwards it is taken off again, whether or not the base could
be resolved. -/
def resolve (registry : Registry) (policy : OverridePolicy) (resolver : Resolver)
    (name : String) : Logged Event (Except Cycle Api × Resolver) :=
  match resolver.cache.get? name with
  | some api => pure (.ok api, resolver)
  | none =>
    match _hinfo : registry.get? name with
    | none => do
      Logged.log (.unknownAncestor name)
      return (.ok .empty, resolver)
    | some info =>
      if _hnew : name ∈ resolver.visiting then
        pure (.error ⟨resolver.visiting.dropWhile (· != name) ++ [name]⟩, resolver)
      else
        match info.base with
        | none => pure (.ok info.own, resolver.remember name info.own)
        | some parent => do
          Logged.log (.resolvingAncestor name parent)
          match ← resolve registry policy (resolver.enter name) parent with
          | (.error cycle, resolver) => return (.error cycle, resolver.leave)
          | (.ok inherited, resolver) =>
            let api := info.own.inherit policy inherited
            return (.ok api, resolver.leave.remember name api)
termination_by (registry.unvisited resolver.visiting).length
decreasing_by exact unvisited_length_lt _hinfo _hnew

/-- The results of a sequence of requests to one resolver. -/
def resolveAll (registry : Registry) (policy : OverridePolicy) (resolver : Resolver) :
    List String → Logged Event (List (Except Cycle Api))
  | [] => pure []
  | name :: names => do
    let (result, resolver) ← registry.resolve policy resolver name
    let results ← registry.resolveAll policy resolver names
    return result :: results

end Registry

end ComponentDocs
