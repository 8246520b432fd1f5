import TypeSchema.OpenApi.Assembly
import TypeSchema.Proofs.References.Occurrence

/-!
# References in OpenAPI documents

What a document refers to is what its parts refer to: the schemas of parameters, bodies and responses,
the keywords that doc comments give operations, and whatever the caller says of the document as a
whole.  The frame around them, the fixed entries of each part, refers to nothing.
-/

set_option autoImplicit false

namespace TypeSchema

/-! ## Lists of entries -/

namespace Json

variable {P : String → Prop}

/-- What the entries refer to satisfies `P`. -/
def EntriesOnly (P : String → Prop) (entries : List (String × Json)) : Prop :=
  ∀ entry ∈ entries, EntryOnly P entry

@[simp] theorem entriesOnly_nil : EntriesOnly P [] := List.forall_mem_nil _

theorem entriesOnly_cons {entry : String × Json} {entries : List (String × Json)} :
    EntriesOnly P (entry :: entries) ↔ EntryOnly P entry ∧ EntriesOnly P entries :=
  List.forall_mem_cons

theorem EntriesOnly.append {first second : List (String × Json)} (h : EntriesOnly P first)
    (h' : EntriesOnly P second) : EntriesOnly P (first ++ second) :=
  fun entry hentry => (List.mem_append.1 hentry).elim (h entry) (h' entry)

theorem EntriesOnly.erase {entries : Dict Json} (h : EntriesOnly P entries) (key : String) :
    EntriesOnly P (Dict.erase entries key) :=
  fun entry hentry => h entry (Dict.mem_of_mem_erase hentry)

theorem EntriesOnly.extend {entries : Dict Json} {more : List (String × Json)}
    (h : EntriesOnly P entries) (hmore : EntriesOnly P more) :
    EntriesOnly P (Dict.extend entries more) :=
  fun entry hentry => (Dict.mem_of_mem_extend hentry).elim (h entry) (hmore entry)

theorem entriesOnly_single {key : String} {value : Json} (hkey : key ≠ "$ref")
    (h : value.RefersOnly P) : EntriesOnly P [(key, value)] :=
  entriesOnly_cons.2 ⟨.of_ne hkey h, entriesOnly_nil⟩

theorem entriesOnly_optional {key : String} {value : Option Json} (hkey : key ≠ "$ref")
    (h : ∀ v, value = some v → v.RefersOnly P) : EntriesOnly P (optionalEntry key value) := by
  cases value with
  | none => exact entriesOnly_nil
  | some v => exact entriesOnly_single hkey (h v rfl)

theorem entriesOnly_list {key : String} {values : List Json} (hkey : key ≠ "$ref")
    (h : ∀ v ∈ values, v.RefersOnly P) : EntriesOnly P (listEntry key values) := by
  rw [listEntry]
  split
  · exact entriesOnly_nil
  · exact entriesOnly_single hkey (refersOnly_array.2 h)

/-- The keys of a dictionary of objects are no references. -/
theorem refersOnly_dict {α : Type} {write : α → Json} {entries : Dict α}
    (hobject : ∀ a, ∃ fields, write a = .object fields)
    (h : ∀ entry ∈ entries, (write entry.2).RefersOnly P) :
    (Dict.toJson write entries).RefersOnly P := by
  refine refersOnly_object.2 fun entry hentry => ?_
  obtain ⟨source, hsource, rfl⟩ := List.mem_map.1 hentry
  refine ⟨fun target heq => ?_, h source hsource⟩
  obtain ⟨fields, hfields⟩ := hobject source.2
  cases hfields.symm.trans (congrArg Prod.snd heq)

end Json

/-! ## Operations -/

namespace OpenApi

open Json

variable {P : String → Prop}

theorem refersOnly_parameter {parameter : Parameter} (h : parameter.schema.RefersOnly P)
    (hdescription : parameter.description = parameter.schema.get? "description") :
    parameter.toJson.RefersOnly P := by
  have hfixed : EntriesOnly P [("name", .string parameter.name),
      ("in", .string parameter.location.name), ("required", .bool parameter.isRequired)] :=
    entriesOnly_cons.2 ⟨.of_ne (by decide) (refersOnly_string _),
      entriesOnly_cons.2 ⟨.of_ne (by decide) (refersOnly_string _),
        entriesOnly_single (by decide) (refersOnly_bool _)⟩⟩
  refine refersOnly_object.2 ((hfixed.append (entriesOnly_optional (by decide) ?_)).append
    (entriesOnly_single (by decide) h))
  exact fun value hvalue => h.get? (hdescription ▸ hvalue)

theorem refersOnly_content {content : Dict MediaType}
    (h : ∀ entry ∈ content, entry.2.schema.RefersOnly P) :
    (Dict.toJson MediaType.toJson content).RefersOnly P :=
  refersOnly_dict (fun _ => ⟨_, rfl⟩) fun entry hentry =>
    refersOnly_object.2 (entriesOnly_single (by decide) (h entry hentry))

theorem refersOnly_requestBody {body : RequestBody} (h : EntriesOnly P body.annotations)
    (hcontent : ∀ entry ∈ body.content, entry.2.schema.RefersOnly P) :
    body.toJson.RefersOnly P :=
  refersOnly_object.2 (h.append (entriesOnly_single (by decide) (refersOnly_content hcontent)))

theorem refersOnly_response {response : Response} (h : EntriesOnly P response.annotations)
    (hdescription : response.description.RefersOnly P)
    (hcontent : ∀ content, response.content = some content →
      ∀ entry ∈ content, entry.2.schema.RefersOnly P) : response.toJson.RefersOnly P := by
  refine refersOnly_object.2 (EntriesOnly.append
    (entriesOnly_cons.2 ⟨.of_ne (by decide) hdescription, h⟩) (entriesOnly_optional (by decide) ?_))
  intro value hvalue
  obtain ⟨content, hsome, rfl⟩ := Option.map_eq_some_iff.1 hvalue
  exact refersOnly_content (hcontent content hsome)

theorem refersOnly_securityRequirement (requirement : SecurityRequirement) :
    (SecurityRequirement.toJson requirement).RefersOnly P := by
  refine refersOnly_object.2 fun entry hentry => ?_
  obtain ⟨source, _, rfl⟩ := List.mem_map.1 hentry
  refine ⟨fun target heq => ?_, refersOnly_strings _⟩
  cases congrArg Prod.snd heq

/-- An operation refers to what its keywords, parameters, body and responses refer to. -/
theorem refersOnly_operation {operation : Operation}
    (hannotations : EntriesOnly P operation.annotations)
    (hparameters : ∀ parameter ∈ operation.parameters, parameter.toJson.RefersOnly P)
    (hbody : ∀ body, operation.requestBody = some body → body.toJson.RefersOnly P)
    (hresponses : ∀ entry ∈ operation.responses, entry.2.toJson.RefersOnly P) :
    operation.toJson.RefersOnly P := by
  have hid : EntriesOnly P (optionalText "operationId" operation.operationId) := by
    refine entriesOnly_optional (by decide) fun value hvalue => ?_
    obtain ⟨text, _, rfl⟩ := Option.map_eq_some_iff.1 hvalue
    exact refersOnly_string text
  have htags : EntriesOnly P (optionalEntry "tags" (operation.tags.map Json.strings)) := by
    refine entriesOnly_optional (by decide) fun value hvalue => ?_
    obtain ⟨tags, _, rfl⟩ := Option.map_eq_some_iff.1 hvalue
    exact refersOnly_strings tags
  have hlist : EntriesOnly P (listEntry "parameters" (operation.parameters.map Parameter.toJson)) := by
    refine entriesOnly_list (by decide) fun value hvalue => ?_
    obtain ⟨parameter, hparameter, rfl⟩ := List.mem_map.1 hvalue
    exact hparameters parameter hparameter
  have hbody' : EntriesOnly P
      (optionalEntry "requestBody" (operation.requestBody.map RequestBody.toJson)) := by
    refine entriesOnly_optional (by decide) fun value hvalue => ?_
    obtain ⟨body, hsome, rfl⟩ := Option.map_eq_some_iff.1 hvalue
    exact hbody body hsome
  have hanswers : EntriesOnly P [("responses", Dict.toJson Response.toJson operation.responses)] :=
    entriesOnly_single (by decide) (refersOnly_dict (fun _ => ⟨_, rfl⟩) hresponses)
  have hsecurity : EntriesOnly P (optionalEntry "security" (operation.security.map fun requirements =>
      .array (requirements.map SecurityRequirement.toJson))) := by
    refine entriesOnly_optional (by decide) fun value hvalue => ?_
    obtain ⟨requirements, _, rfl⟩ := Option.map_eq_some_iff.1 hvalue
    refine refersOnly_array.2 fun item hitem => ?_
    obtain ⟨requirement, _, rfl⟩ := List.mem_map.1 hitem
    exact refersOnly_securityRequirement requirement
  exact refersOnly_object.2
    ((((((hid.append htags).append hannotations).append hlist).append hbody').append
      hanswers).append hsecurity)

/-! ## Documents -/

/-- What the caller says of a part, if he says anything, refers to what all he says refers to. -/
private theorem refersOnly_nullable {α : Type} {write : α → Json} {value : Option α}
    (h : (nullable (value.map write)).RefersOnly P) (a : α) (ha : value = some a) :
    (write a).RefersOnly P := by
  subst ha
  exact h

private theorem refersOnly_each {α : Type} {write : α → Json} {values : List α}
    (h : (Json.array (values.map write)).RefersOnly P) : ∀ v ∈ values.map write, v.RefersOnly P :=
  refersOnly_array.1 h

/-- The parts of what the caller says. -/
theorem refersOnly_metadata {metadata : Metadata} (h : metadata.toJson.RefersOnly P) :
    (nullable (metadata.info.map Info.toJson)).RefersOnly P ∧
      (Json.array (metadata.tags.map Tag.toJson)).RefersOnly P ∧
      (Json.array (metadata.servers.map Server.toJson)).RefersOnly P ∧
      (Json.array (metadata.security.map SecurityRequirement.toJson)).RefersOnly P ∧
      (nullable (metadata.externalDocs.map ExternalDocs.toJson)).RefersOnly P ∧
      (nullable (metadata.components.map Components.toJson)).RefersOnly P := by
  obtain ⟨hinfo, h⟩ := entriesOnly_cons.1 (refersOnly_object.1 h)
  obtain ⟨htags, h⟩ := entriesOnly_cons.1 h
  obtain ⟨hservers, h⟩ := entriesOnly_cons.1 h
  obtain ⟨hsecurity, h⟩ := entriesOnly_cons.1 h
  obtain ⟨hdocs, h⟩ := entriesOnly_cons.1 h
  obtain ⟨hcomponents, _⟩ := entriesOnly_cons.1 h
  exact ⟨hinfo.2, htags.2, hservers.2, hsecurity.2, hdocs.2, hcomponents.2⟩

/-- The schemas that the caller gives, and what else he puts among the components. -/
theorem refersOnly_callerComponents {metadata : Metadata} (h : metadata.toJson.RefersOnly P) :
    (∀ entry ∈ (metadata.components.getD {}).schemas, entry.2.RefersOnly P) ∧
      EntriesOnly P (metadata.components.getD {}).others := by
  cases hcomponents : metadata.components with
  | none => exact ⟨List.forall_mem_nil _, entriesOnly_nil⟩
  | some components =>
    have hjson := refersOnly_nullable (refersOnly_metadata h).2.2.2.2.2 components hcomponents
    obtain ⟨hschemas, hothers⟩ := entriesOnly_cons.1 (refersOnly_object.1 hjson)
    refine ⟨fun entry hentry => ?_, hothers⟩
    exact (refersOnly_object.1 hschemas.2 (entry.1, entry.2.toJson)
      (List.mem_map.2 ⟨entry, hentry, rfl⟩)).2

/-- A document refers to what its operations, its schemas and the caller refer to. -/
theorem refersOnly_document (version : OpenApiVersion) {metadata : Metadata}
    (hmetadata : metadata.toJson.RefersOnly P) {paths : Dict PathItem} {schemas : Dict Definition}
    (hpaths : ∀ item ∈ paths, ∀ entry ∈ item.2, entry.2.toJson.RefersOnly P)
    (hschemas : ∀ entry ∈ schemas, entry.2.RefersOnly P) :
    ({ Document.ofMetadata version metadata with
        paths := paths
        components := { metadata.components.getD {} with schemas := schemas } } :
      Document).toJson.RefersOnly P := by
  obtain ⟨hinfo, htags, hservers, hsecurity, hdocs, _⟩ := refersOnly_metadata hmetadata
  have hothers := (refersOnly_callerComponents hmetadata).2
  have hfirst : EntriesOnly P [("openapi", .string version.text),
      ("info", (metadata.info.getD {}).toJson)] := by
    refine entriesOnly_cons.2 ⟨.of_ne (by decide) (refersOnly_string _),
      entriesOnly_single (by decide) ?_⟩
    cases hsome : metadata.info with
    | some info => exact refersOnly_nullable hinfo info hsome
    | none =>
      refine refersOnly_object.2 (entriesOnly_cons.2 ⟨.of_ne (by decide) (refersOnly_string _), ?_⟩)
      exact entriesOnly_single (by decide) (refersOnly_string _)
  have hitems : EntriesOnly P [("paths", Dict.toJson (Dict.toJson Operation.toJson) paths),
      ("components",
        ({ metadata.components.getD {} with schemas := schemas } : Components).toJson)] := by
    refine entriesOnly_cons.2 ⟨.of_ne (by decide) (refersOnly_dict (fun _ => ⟨_, rfl⟩) ?_),
      entriesOnly_single (by decide) (refersOnly_object.2 (entriesOnly_cons.2 ⟨?_, hothers⟩))⟩
    · exact fun item hitem => refersOnly_dict (fun _ => ⟨_, rfl⟩) (hpaths item hitem)
    · exact .of_ne (by decide) (refersOnly_dict (fun _ => ⟨_, rfl⟩) hschemas)
  have hlinks : EntriesOnly P
      (optionalEntry "externalDocs" (metadata.externalDocs.map ExternalDocs.toJson)) := by
    refine entriesOnly_optional (by decide) fun value hvalue => ?_
    obtain ⟨docs, hsome, rfl⟩ := Option.map_eq_some_iff.1 hvalue
    exact refersOnly_nullable hdocs docs hsome
  exact refersOnly_object.2
    (((((hfirst.append (entriesOnly_list (by decide) (refersOnly_each hservers))).append
      hitems).append (entriesOnly_list (by decide) (refersOnly_each hsecurity))).append
      (entriesOnly_list (by decide) (refersOnly_each htags))).append hlinks)

end OpenApi

end TypeSchema
