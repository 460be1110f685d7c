import ComponentDocs.Proofs.Json.Reader
import ComponentDocs.Report.Json

/-!
# Reports read back

The data of a report is taken from a JSON value by the names of its fields.  `Carries` says that a
written form gives back all that it shows of a record, and that it repeats no name in an object;
this is shown for each kind of data, and lists, maps and optional data carry what their parts carry.
A report shows everything but the visibility of members and the names that modules declare
(`Report.shown`), so two projects with the same text differ in nothing else.
-/

namespace ComponentDocs

/-- The map with all values changed. -/
def OrderedMap.map {α β : Type} (f : α → β) (m : OrderedMap α) : OrderedMap β :=
  ⟨m.entries.map fun entry => (entry.1, f entry.2), by
    have hkeys : (m.entries.map fun entry => (entry.1, f entry.2)).map Prod.fst =
        m.entries.map Prod.fst := by
      simp
    rw [hkeys]
    exact m.nodup⟩

theorem OrderedMap.map_id {α : Type} (m : OrderedMap α) : m.map id = m := by
  cases m
  simp [OrderedMap.map]

namespace Json

/-- No object repeats a key. -/
inductive KeysDistinct : Json → Prop
  | null : KeysDistinct .null
  | bool (value : Bool) : KeysDistinct (.bool value)
  | string (value : String) : KeysDistinct (.string value)
  | array {items : List Json} (hitems : ∀ item ∈ items, item.KeysDistinct) :
      KeysDistinct (.array items)
  | object {fields : List (String × Json)} (hkeys : (fields.map Prod.fst).Nodup)
      (hfields : ∀ field ∈ fields, field.2.KeysDistinct) : KeysDistinct (.object fields)

/-! ## Taking data from a value -/

variable {α : Type}

def text? : Json → Option String
  | .string value => some value
  | _ => none

def bool? : Json → Option Bool
  | .bool value => some value
  | _ => none

def list? (decode : Json → Option α) : Json → Option (List α)
  | .array items => items.mapM decode
  | _ => none

def optional? (decode : Json → Option α) : Json → Option (Option α)
  | .null => some none
  | json => (decode json).map some

/-- The entries of an object, unless a key occurs twice. -/
def map? (decode : Json → Option α) : Json → Option (OrderedMap α)
  | .object fields => do
    let entries ← fields.mapM fun field => (decode field.2).map (field.1, ·)
    if h : (entries.map Prod.fst).Nodup then some ⟨entries, h⟩ else none
  | _ => none

/-- The data in a field of an object. -/
def get? (decode : Json → Option α) (key : String) : Json → Option α
  | .object fields => (fields.lookup key).bind decode
  | _ => none

theorem get?_cons (decode : Json → Option α) (key name : String) (value : Json)
    (fields : List (String × Json)) :
    get? decode key (.object ((name, value) :: fields)) =
      if key = name then decode value else get? decode key (.object fields) := by
  by_cases hname : key = name
  · simp [get?, hname]
  · simp [get?, List.lookup_cons, beq_false_of_ne hname, hname]

theorem mapM_map {β γ δ : Type} {f : β → γ} {decode : γ → Option δ} {g : β → δ}
    (h : ∀ b, decode (f b) = some (g b)) (items : List β) :
    (items.map f).mapM decode = some (items.map g) := by
  induction items with
  | nil => rfl
  | cons item items ih => simp [List.mapM_cons, h, ih]

/-! ## Written forms that can be read back -/

/-- What `decode` takes from the written form of a record is what is shown of it, and the written
form repeats no key. -/
structure Carries (encode : α → Json) (decode : Json → Option α) (shown : α → α) : Prop where
  recovers : ∀ a, decode (encode a) = some (shown a)
  distinct : ∀ a, (encode a).KeysDistinct

theorem carries_text : Carries Json.string text? id :=
  ⟨fun _ => rfl, .string⟩

variable {encode : α → Json} {decode : Json → Option α} {shown : α → α}

theorem Carries.list (h : Carries encode decode shown) :
    Carries (fun items : List α => .array (items.map encode)) (list? decode) (List.map shown) where
  recovers := mapM_map h.recovers
  distinct items := .array fun item hitem => by
    obtain ⟨a, -, rfl⟩ := List.mem_map.1 hitem
    exact h.distinct a

theorem Carries.optional (h : Carries encode decode shown) (hnull : decode .null = none) :
    Carries (fun a : Option α => (a.map encode).getD .null) (optional? decode)
      (Option.map shown) where
  recovers a := by
    cases a with
    | none => rfl
    | some a =>
      have ha := h.recovers a
      rw [Option.map_some, Option.getD_some, Option.map_some]
      cases hjson : encode a with
      | null => rw [hjson, hnull] at ha; cases ha
      | _ => rw [hjson] at ha; simp [optional?, ha]
  distinct a := by
    cases a with
    | none => exact .null
    | some a => exact h.distinct a

theorem Carries.map (h : Carries encode decode shown) :
    Carries (fun m : OrderedMap α => .object (m.entries.map fun (name, a) => (name, encode a)))
      (map? decode) (OrderedMap.map shown) where
  recovers m := by
    have hentries : (m.entries.map fun (name, a) => (name, encode a)).mapM
        (fun field => (decode field.2).map (field.1, ·)) =
          some (m.entries.map fun entry => (entry.1, shown entry.2)) :=
      mapM_map (fun entry => by simp [h.recovers]) m.entries
    rw [map?, hentries]
    exact dif_pos (m.map shown).nodup
  distinct m := by
    refine .object ?_ fun field hfield => ?_
    · have hkeys : (m.entries.map fun (name, a) => (name, encode a)).map Prod.fst =
          m.entries.map Prod.fst := by
        simp
      rw [hkeys]
      exact m.nodup
    · obtain ⟨entry, -, rfl⟩ := List.mem_map.1 hfield
      exact h.distinct entry.2

end Json

open Json

theorem carries_strings : Carries strings (list? text?) id := by
  have h := carries_text.list
  rw [List.map_id_fun] at h
  exact h

theorem carries_optionalText : Carries optional (optional? text?) id := by
  have h := carries_text.optional rfl
  have hencode : optional = fun text : Option String => (text.map Json.string).getD .null := by
    funext text
    cases text <;> rfl
  rw [Option.map_id_fun] at h
  rw [hencode]
  exact h

/-! ## Navigation -/

namespace Navigation

def Link.ofJson? (json : Json) : Option Link := do
  return ⟨← get? text? "title" json, ← get? text? "path" json⟩

theorem carries_link : Carries Link.toJson Link.ofJson? id where
  recovers link := by
    simp [Link.toJson, Link.ofJson?, get?_cons, text?]
  distinct link := by
    refine .object (by simp) ?_
    simp only [List.forall_mem_cons]
    exact ⟨.string _, .string _, by simp⟩

def Group.ofJson? (json : Json) : Option Group := do
  return ⟨← get? text? "groupName" json, ← get? (list? Link.ofJson?) "links" json⟩

theorem carries_group : Carries Group.toJson Group.ofJson? id where
  recovers group := by
    have hlinks := carries_link.list.recovers group.links
    simp [Group.toJson, Group.ofJson?, get?_cons, text?, hlinks]
  distinct group := by
    refine .object (by simp) ?_
    simp only [List.forall_mem_cons]
    exact ⟨.string _, carries_link.list.distinct _, by simp⟩

end Navigation

/-! ## Members -/

/-- The property without its visibility. -/
def Property.shown (property : Property) : Property :=
  { property with visibility := none }

def Property.ofJson? (json : Json) : Option Property := do
  return ⟨← get? text? "propertyName" json, ← get? text? "type" json,
    ← get? (list? text?) "decoratorNames" json, ← get? text? "description" json, none⟩

theorem carries_property : Carries Property.toJson Property.ofJson? Property.shown where
  recovers property := by
    have hdecorators := carries_strings.recovers property.decorators
    simp [Property.toJson, Property.ofJson?, get?_cons, text?, hdecorators, Property.shown]
  distinct property := by
    refine .object (by simp) ?_
    simp only [List.forall_mem_cons]
    exact ⟨.string _, .string _, carries_strings.distinct _, .string _, by simp⟩

/-- The method without its visibility. -/
def Method.shown (method : Method) : Method :=
  { method with visibility := none }

def Method.ofJson? (json : Json) : Option Method := do
  return ⟨← get? text? "methodName" json, ← get? (list? text?) "decoratorNames" json,
    ← get? text? "description" json, none⟩

theorem carries_method : Carries Method.toJson Method.ofJson? Method.shown where
  recovers method := by
    have hdecorators := carries_strings.recovers method.decorators
    simp [Method.toJson, Method.ofJson?, get?_cons, text?, hdecorators, Method.shown]
  distinct method := by
    refine .object (by simp) ?_
    simp only [List.forall_mem_cons]
    exact ⟨.string _, .string _, carries_strings.distinct _, by simp⟩

def Api.shown (api : Api) : Api :=
  ⟨api.properties.map Property.shown, api.methods.map Method.shown⟩

/-- The members under the names of their two lists. -/
def Api.get? (properties methods : String) (json : Json) : Option Api := do
  return ⟨← Json.get? (list? Property.ofJson?) properties json,
    ← Json.get? (list? Method.ofJson?) methods json⟩

theorem carries_properties (api : Api) :
    list? Property.ofJson? api.propertiesJson = some (api.properties.map Property.shown) ∧
      api.propertiesJson.KeysDistinct :=
  ⟨carries_property.list.recovers _, carries_property.list.distinct _⟩

theorem carries_methods (api : Api) :
    list? Method.ofJson? api.methodsJson = some (api.methods.map Method.shown) ∧
      api.methodsJson.KeysDistinct :=
  ⟨carries_method.list.recovers _, carries_method.list.distinct _⟩

theorem carries_api : Carries Api.toJson (Api.get? "properties" "methods") Api.shown where
  recovers api := by
    simp [Api.toJson, Api.get?, get?_cons, carries_properties api, carries_methods api, Api.shown]
  distinct api := by
    refine .object (by simp) ?_
    simp only [List.forall_mem_cons]
    exact ⟨(carries_properties api).2, (carries_methods api).2, by simp⟩

/-! ## Components -/

/-- The module without the names that it declares. -/
def Module.shown (module : Module) : Module :=
  { module with declared := [] }

def Module.ofJson? (json : Json) : Option Module := do
  return ⟨← get? text? "moduleRefName" json, ← get? text? "fileName" json, []⟩

theorem carries_module : Carries Module.toJson Module.ofJson? Module.shown where
  recovers module := by
    simp [Module.toJson, Module.ofJson?, get?_cons, text?, Module.shown]
  distinct module := by
    refine .object (by simp) ?_
    simp only [List.forall_mem_cons]
    exact ⟨.string _, .string _, by simp⟩

def ComponentDoc.shown (doc : ComponentDoc) : ComponentDoc :=
  { doc with module := doc.module.map Module.shown, api := doc.api.shown }

def ComponentDoc.ofJson? (json : Json) : Option ComponentDoc := do
  return {
    className := ← get? text? "componentRefName" json
    componentName := ← get? text? "componentDocName" json
    groupName := ← get? text? "groupDocName" json
    description := ← get? text? "description" json
    file := ← get? text? "fileName" json
    selector := ← get? (optional? text?) "selector" json
    module := ← get? (optional? Module.ofJson?) "moduleDetails" json
    bases := ← get? (list? text?) "extendClasses" json
    api := ← get? (Api.get? "properties" "methods") "apiDetails" json }

theorem carries_componentDoc :
    Carries ComponentDoc.toJson ComponentDoc.ofJson? ComponentDoc.shown where
  recovers doc := by
    have hselector := carries_optionalText.recovers doc.selector
    have hmodule := (carries_module.optional rfl).recovers doc.module
    have hbases := carries_strings.recovers doc.bases
    have hapi := carries_api.recovers doc.api
    simp [ComponentDoc.toJson, ComponentDoc.ofJson?, get?_cons, text?, hselector, hmodule, hbases,
      hapi, ComponentDoc.shown]
  distinct doc := by
    refine .object (by simp) ?_
    simp only [List.forall_mem_cons]
    exact ⟨.string _, .string _, .string _, .string _, .string _, carries_optionalText.distinct _,
      (carries_module.optional rfl).distinct _, carries_strings.distinct _, carries_api.distinct _,
      by simp⟩

/-! ## Other classes -/

def Tags.ofJson? (json : Json) : Option Tags := do
  return ⟨← get? (map? text?) "tags" json, ← get? text? "description" json⟩

theorem carries_tags : Carries Tags.toJson Tags.ofJson? id where
  recovers tags := by
    have hvalues := carries_text.map.recovers tags.values
    rw [OrderedMap.map_id] at hvalues
    simp [Tags.toJson, Tags.ofJson?, get?_cons, text?, hvalues]
  distinct tags := by
    refine .object (by simp) ?_
    simp only [List.forall_mem_cons]
    exact ⟨carries_text.map.distinct _, .string _, by simp⟩

def Registration.ofJson? (json : Json) : Option Registration := do
  return ⟨← get? text? "decoratorName" json, ← get? (optional? text?) "selector" json⟩

theorem carries_registration : Carries Registration.toJson Registration.ofJson? id where
  recovers registration := by
    have hselector := carries_optionalText.recovers registration.selector
    simp [Registration.toJson, Registration.ofJson?, get?_cons, text?, hselector]
  distinct registration := by
    refine .object (by simp) ?_
    simp only [List.forall_mem_cons]
    exact ⟨.string _, carries_optionalText.distinct _, by simp⟩

def ClassInfo.shown (info : ClassInfo) : ClassInfo :=
  { info with own := info.own.shown }

def ClassInfo.ofJson? (json : Json) : Option ClassInfo := do
  return {
    name := ← get? text? "name" json
    file := ← get? text? "fileName" json
    isDocumented := ← get? bool? "isDocumentedComponent" json
    base := ← get? (optional? text?) "extendsName" json
    own := ← Api.get? "ownProperties" "ownMethods" json
    tags := ← get? Tags.ofJson? "docTags" json
    registration := ← get? (optional? Registration.ofJson?) "registration" json }

theorem carries_classInfo : Carries ClassInfo.toJson ClassInfo.ofJson? ClassInfo.shown where
  recovers info := by
    have hbase := carries_optionalText.recovers info.base
    have htags := carries_tags.recovers info.tags
    have hregistration := (carries_registration.optional rfl).recovers info.registration
    simp [ClassInfo.toJson, ClassInfo.ofJson?, Api.get?, get?_cons, text?, bool?, hbase, htags,
      hregistration, carries_properties info.own, carries_methods info.own, ClassInfo.shown,
      Api.shown]
  distinct info := by
    refine .object (by simp) ?_
    simp only [List.forall_mem_cons]
    exact ⟨.string _, .string _, .bool _, carries_optionalText.distinct _,
      (carries_properties info.own).2, (carries_methods info.own).2, carries_tags.distinct _,
      (carries_registration.optional rfl).distinct _, by simp⟩

/-! ## Reports -/

/-- The project without the visibility of members and the names that modules declare. -/
def Project.shown (project : Project) : Project :=
  ⟨project.components.map ComponentDoc.shown, project.others.map ClassInfo.shown⟩

namespace Report

def shown (report : Report) : Report :=
  { report with project := report.project.shown }

def ofJson? (json : Json) : Option Report := do
  return ⟨← get? (list? Navigation.Group.ofJson?) "navigationLinks" json,
    ← get? (list? ComponentDoc.ofJson?) "classesWithDocs" json,
    ← get? (map? ClassInfo.ofJson?) "otherClasses" json⟩

theorem carries_report : Carries toJson ofJson? shown where
  recovers report := by
    have hnavigation := Navigation.carries_group.list.recovers report.navigation
    have hcomponents := carries_componentDoc.list.recovers report.project.components
    have hothers := carries_classInfo.map.recovers report.project.others
    simp [toJson, ofJson?, get?_cons, hnavigation, hcomponents, hothers, shown, Project.shown]
  distinct report := by
    refine .object (by simp) ?_
    simp only [List.forall_mem_cons]
    exact ⟨Navigation.carries_group.list.distinct _, carries_componentDoc.list.distinct _,
      carries_classInfo.map.distinct _, by simp⟩

/-- Equal texts come from reports that show the same. -/
theorem shown_eq_of_jsonText_eq {report other : Report} (h : report.jsonText = other.jsonText) :
    report.shown = other.shown := by
  have htext : report.toJson.pretty ++ ['\n'] = other.toJson.pretty ++ ['\n'] := by
    rw [jsonText, jsonText, String.ofList_inj] at h
    exact h
  have hjson : report.toJson = other.toJson := by
    have hread := (read_pretty report.toJson).2
    rw [htext, (read_pretty other.toJson).2] at hread
    exact (Option.some.inj hread).symm
  have hrecovers := carries_report.recovers report
  rw [hjson, carries_report.recovers other] at hrecovers
  exact (Option.some.inj hrecovers).symm

/-- The JSON text of a project loses nothing that it shows.  It is a document and a line feed, no
object of the document repeats a key, and the one value that the text stands for gives back the
navigation and every component and class without the visibility of members and the names that
modules declare.  So two projects with the same text differ at most in these. -/
theorem jsonText_lossless (project : Project) (urlPrefix : String) :
    let text := (ofProject project urlPrefix).jsonText
    (∃ document json, text.toList = document ++ ['\n'] ∧ Document document json ∧
        json.KeysDistinct ∧ Json.read text.toList = some json ∧
        (∀ other, Document text.toList other → other = json) ∧
        ofJson? json = some ⟨Navigation.groups project.components urlPrefix, project.shown⟩) ∧
      ∀ (other : Project) (otherPrefix : String), (ofProject other otherPrefix).jsonText = text →
        other.shown = project.shown ∧
          Navigation.groups other.components otherPrefix =
            Navigation.groups project.components urlPrefix := by
  intro text
  let report := ofProject project urlPrefix
  have htext : text.toList = report.toJson.pretty ++ ['\n'] := String.toList_ofList
  have hread : Json.read text.toList = some report.toJson := by
    rw [htext, (read_pretty report.toJson).2]
  refine ⟨⟨report.toJson.pretty, report.toJson, htext, (document_pretty _).1,
    carries_report.distinct report, hread, ?_, carries_report.recovers report⟩, ?_⟩
  · intro other hother
    rw [← read_eq_some_iff, hread] at hother
    exact (Option.some.inj hother).symm
  · intro other otherPrefix hsame
    have hshown := shown_eq_of_jsonText_eq hsame
    exact ⟨congrArg Report.project hshown, congrArg Report.navigation hshown⟩

end Report

end ComponentDocs
