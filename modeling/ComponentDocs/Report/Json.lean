import ComponentDocs.Json
import ComponentDocs.Report.Basic

/-!
# Reports in JSON

The data of a report under the names that a documentation site reads.  Visibility and the names
that a module declares are not part of it.
-/

namespace ComponentDocs

open Json

def Navigation.Link.toJson (link : Navigation.Link) : Json :=
  .object [("title", .string link.title), ("path", .string link.path)]

def Navigation.Group.toJson (group : Navigation.Group) : Json :=
  .object
    [("groupName", .string group.name),
      ("links", .array (group.links.map Navigation.Link.toJson))]

def Property.toJson (property : Property) : Json :=
  .object
    [("propertyName", .string property.name), ("type", .string property.type),
      ("decoratorNames", strings property.decorators),
      ("description", .string property.description)]

def Method.toJson (method : Method) : Json :=
  .object
    [("methodName", .string method.name), ("description", .string method.description),
      ("decoratorNames", strings method.decorators)]

def Api.propertiesJson (api : Api) : Json :=
  .array (api.properties.map Property.toJson)

def Api.methodsJson (api : Api) : Json :=
  .array (api.methods.map Method.toJson)

def Api.toJson (api : Api) : Json :=
  .object [("properties", api.propertiesJson), ("methods", api.methodsJson)]

def Module.toJson (module : Module) : Json :=
  .object [("moduleRefName", .string module.name), ("fileName", .string module.file)]

def ComponentDoc.toJson (doc : ComponentDoc) : Json :=
  .object
    [("componentRefName", .string doc.className), ("componentDocName", .string doc.componentName),
      ("groupDocName", .string doc.groupName), ("description", .string doc.description),
      ("fileName", .string doc.file), ("selector", optional doc.selector),
      ("moduleDetails", (doc.module.map Module.toJson).getD .null),
      ("extendClasses", strings doc.bases), ("apiDetails", doc.api.toJson)]

def Tags.toJson (tags : Tags) : Json :=
  .object
    [("tags", .object (tags.values.entries.map fun (name, value) => (name, .string value))),
      ("description", .string tags.description)]

def Registration.toJson (registration : Registration) : Json :=
  .object
    [("decoratorName", .string registration.decorator),
      ("selector", optional registration.selector)]

def ClassInfo.toJson (info : ClassInfo) : Json :=
  .object
    [("name", .string info.name), ("fileName", .string info.file),
      ("isDocumentedComponent", .bool info.isDocumented), ("extendsName", optional info.base),
      ("ownProperties", info.own.propertiesJson), ("ownMethods", info.own.methodsJson),
      ("docTags", info.tags.toJson),
      ("registration", (info.registration.map Registration.toJson).getD .null)]

def Report.toJson (report : Report) : Json :=
  .object
    [("navigationLinks", .array (report.navigation.map Navigation.Group.toJson)),
      ("classesWithDocs", .array (report.project.components.map ComponentDoc.toJson)),
      ("otherClasses",
        .object (report.project.others.entries.map fun (name, info) => (name, info.toJson)))]

/-- The JSON document of a report and a line feed. -/
def Report.jsonText (report : Report) : String :=
  String.ofList (report.toJson.pretty ++ ['\n'])

end ComponentDocs
