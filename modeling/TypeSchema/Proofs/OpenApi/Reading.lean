import TypeSchema.OpenApi.Format
import TypeSchema.Proofs.Json.Survival

/-!
# Documents are read back

A document is read back as it is (`OpenApi.Document.readBack_toJson`) if its JSON survives being written
and read (`Json.Survives`), no part keeps an entry under the name of one of its own fields
(`OpenApi.Document.IsApart`), and no parameter has `null` for a description.
-/

set_option autoImplicit false

namespace TypeSchema

open Json Decoder

theorem Definition.readBack_toJson {definition : Definition} {levels : Nat}
    (h : definition.toJson.Survives levels) :
    readBack Definition.decode levels definition.toJson = some definition :=
  readBack_dict_any h

namespace OpenApi

/-- None of the entries has one of the names. -/
def Apart (names : List String) (entries : Dict Json) : Prop :=
  ∀ entry ∈ entries, entry.1 ∉ names

variable {levels : Nat}

/-! ## What the caller says -/

theorem Info.readBack_toJson {info : Info} (h : info.toJson.Survives levels)
    (hapart : Apart ["title", "version", "description"] info.others) :
    readBack Info.decode levels info.toJson = some info := by
  obtain ⟨inner, rfl, hown, hentries⟩ := h.object
  have hothers : ∀ entry ∈ info.others, entry.2.Survives inner := fun entry hmem =>
    hentries entry (List.mem_append_right _ hmem)
  have hkeys : (Dict.keys info.others).Nodup :=
    hown.sublist ((List.sublist_append_right _ _).map Prod.fst)
  exact readBack_openRecord
    ((((Enters.entry rfl (readBack_string info.title)).append
      (.entry rfl (readBack_string info.version))).append
      (.optional rfl (fun text _ => ⟨by simp, readBack_string text⟩) rfl)).append
      (.foreign hapart fun entry hmem => Option.isSome_of_eq_some (hothers entry hmem).json?))
    rfl hothers hkeys rfl (by decide) (by simp [Dict.keys])

theorem ExternalDocs.readBack_toJson {docs : ExternalDocs} (h : docs.toJson.Survives levels) :
    readBack ExternalDocs.decode levels docs.toJson = some docs := by
  obtain ⟨inner, rfl, _, _⟩ := h.object
  exact readBack_of_enters
    ((Enters.entry rfl (readBack_string docs.url)).append
      (.optional rfl (fun text _ => ⟨by simp, readBack_string text⟩) rfl))
    rfl rfl (by decide) (by simp [Dict.keys])

theorem Tag.readBack_toJson {tag : Tag} (h : tag.toJson.Survives levels) :
    readBack Tag.decode levels tag.toJson = some tag := by
  obtain ⟨inner, rfl, _, hentries⟩ := h.object
  have hdocs : ∀ docs, tag.externalDocs = some docs → docs.toJson.Survives inner :=
    forall_mem_optionalEntry.1 fun entry hmem => hentries entry (List.mem_append_right _ hmem)
  exact readBack_of_enters
    (((Enters.entry rfl (readBack_string tag.name)).append
      (.optional rfl (fun text _ => ⟨by simp, readBack_string text⟩) rfl)).append
      (.optional rfl (fun docs hdocs' => ⟨by simp [ExternalDocs.toJson],
        (ExternalDocs.readBack_toJson (hdocs docs hdocs'))⟩) rfl))
    rfl rfl (by decide) (by simp [Dict.keys])

theorem Server.readBack_toJson {server : Server} (h : server.toJson.Survives levels) :
    readBack Server.decode levels server.toJson = some server := by
  obtain ⟨inner, rfl, _, hentries⟩ := h.object
  have hsettings : ∀ settings, server.settings = some settings →
      (Json.object settings).Survives inner :=
    forall_mem_optionalEntry.1 fun entry hmem => hentries entry (List.mem_append_right _ hmem)
  exact readBack_of_enters
    (((Enters.entry rfl (readBack_string server.url)).append
      (.optional rfl (fun text _ => ⟨by simp, readBack_string text⟩) rfl)).append
      (.optional rfl (fun settings hsome => ⟨by simp, readBack_dict_any (hsettings settings hsome)⟩) rfl))
    rfl rfl (by decide) (by simp [Dict.keys])

theorem readBack_strings {texts : List String} (h : (Json.strings texts).Survives levels) :
    readBack (list string) levels (Json.strings texts) = some texts :=
  readBack_list_of_survives h fun text _ _ _ => readBack_string text

theorem SecurityRequirement.readBack_toJson {requirement : SecurityRequirement}
    (h : (SecurityRequirement.toJson requirement).Survives levels) :
    readBack SecurityRequirement.decode levels (SecurityRequirement.toJson requirement) =
      some requirement :=
  readBack_dict_of_survives h fun _ _ _ => readBack_strings

theorem readBack_requirements {requirements : List SecurityRequirement}
    (h : (Json.array (requirements.map SecurityRequirement.toJson)).Survives levels) :
    readBack (list SecurityRequirement.decode) levels
      (.array (requirements.map SecurityRequirement.toJson)) = some requirements :=
  readBack_list_of_survives h fun _ _ _ => SecurityRequirement.readBack_toJson

theorem Components.readBack_toJson {components : Components} (h : components.toJson.Survives levels)
    (hapart : Apart ["schemas"] components.others) :
    readBack Components.decode levels components.toJson = some components := by
  obtain ⟨inner, rfl, hown, hentries⟩ := h.object
  obtain ⟨hschemas, hothers⟩ := List.forall_mem_cons.1 hentries
  have hread : readBack (dict Definition.decode) inner
      (Dict.toJson Definition.toJson components.schemas) = some components.schemas :=
    readBack_dict_of_survives hschemas fun _ _ _ => Definition.readBack_toJson
  exact readBack_openRecord
    ((Enters.entry rfl hread).append
      (.foreign hapart fun entry hmem => Option.isSome_of_eq_some (hothers entry hmem).json?))
    rfl hothers (List.nodup_cons.1 hown).2 rfl (by decide) (by simp)

/-! ## Operations -/

theorem Parameter.readBack_toJson {p : Parameter} (h : p.toJson.Survives levels)
    (hdescription : p.description ≠ some .null) :
    readBack Parameter.decode levels p.toJson = some p := by
  obtain ⟨inner, rfl, _, hentries⟩ := h.object
  have hlocation : Dict.get? ParameterLocation.names p.location.name = some p.location := by
    cases p.location <;> rfl
  have hschema : p.schema.toJson.Survives inner :=
    hentries ("schema", p.schema.toJson) (List.mem_append_right _ List.mem_cons_self)
  have htext : ∀ value, p.description = some value → value.Survives inner := fun value hvalue =>
    hentries ("description", value) (by simp [hvalue, optionalEntry])
  have hmapped : optionalEntry "description" p.description =
      optionalEntry "description" (p.description.map id) := by rw [Option.map_id, id]
  rw [Parameter.toJson, hmapped]
  exact readBack_of_enters
    (((((Enters.entry rfl (readBack_string p.name)).append
      (.entry rfl (readBack_choice hlocation))).append
      (.entry rfl (readBack_flag p.isRequired))).append
      (.optional rfl (fun value hvalue => ⟨fun hnull => hdescription (hvalue.trans (congrArg some hnull)),
        readBack_any (htext value hvalue)⟩) rfl)).append
      (.entry rfl (Definition.readBack_toJson hschema)))
    rfl rfl (by decide) (by simp [Dict.keys])

theorem MediaType.readBack_toJson {media : MediaType} (h : media.toJson.Survives levels) :
    readBack MediaType.decode levels media.toJson = some media := by
  obtain ⟨inner, rfl, _, hentries⟩ := h.object
  exact readBack_of_enters
    (Enters.entry rfl (Definition.readBack_toJson (hentries _ List.mem_cons_self)))
    rfl rfl (by decide) (by simp [Dict.keys])

theorem readBack_content {content : Dict MediaType}
    (h : (Dict.toJson MediaType.toJson content).Survives levels) :
    readBack (dict MediaType.decode) levels (Dict.toJson MediaType.toJson content) = some content :=
  readBack_dict_of_survives h fun _ _ _ => MediaType.readBack_toJson

theorem RequestBody.readBack_toJson {body : RequestBody} (h : body.toJson.Survives levels)
    (hapart : Apart ["content"] body.annotations) :
    readBack RequestBody.decode levels body.toJson = some body := by
  obtain ⟨inner, rfl, hown, hentries⟩ := h.object
  obtain ⟨hannotations, hcontent⟩ := List.forall_mem_append.1 hentries
  have hkeys : (Dict.keys body.annotations).Nodup :=
    hown.sublist ((List.sublist_append_left _ _).map Prod.fst)
  exact readBack_openRecord
    ((Enters.foreign (by exact hapart) fun entry hmem =>
      Option.isSome_of_eq_some (hannotations entry hmem).json?).append
      (.entry rfl (readBack_content (hcontent _ List.mem_cons_self))))
    (List.append_nil _) hannotations hkeys rfl (by decide) (by simp [Dict.keys])

theorem Response.readBack_toJson {response : Response} (h : response.toJson.Survives levels)
    (hapart : Apart ["description", "content"] response.annotations) :
    readBack Response.decode levels response.toJson = some response := by
  obtain ⟨inner, rfl, hown, hentries⟩ := h.object
  obtain ⟨hfirst, hcontent⟩ := List.forall_mem_append.1 hentries
  obtain ⟨hdescription, hannotations⟩ := List.forall_mem_cons.1 hfirst
  have hcontent := forall_mem_optionalEntry.1 hcontent
  have hkeys : (Dict.keys response.annotations).Nodup :=
    hown.sublist ((((List.sublist_cons_self _ _)).trans (List.sublist_append_left _ _)).map Prod.fst)
  exact readBack_openRecord
    (((Enters.entry rfl (readBack_any hdescription)).append
      (.foreign (by exact hapart) fun entry hmem =>
        Option.isSome_of_eq_some (hannotations entry hmem).json?)).append
      (.optional rfl (fun content hsome => ⟨by simp [Dict.toJson],
        readBack_content (hcontent content hsome)⟩) rfl))
    (List.append_nil _) hannotations hkeys rfl (by decide) (by simp [Dict.keys])

/-- The keys of an operation's own. -/
def operationKeys : List String :=
  ["operationId", "tags", "parameters", "requestBody", "responses", "security"]

/-- No part of the operation keeps an entry under the name of one of its own fields. -/
structure Operation.IsApart (operation : Operation) : Prop where
  annotations : Apart operationKeys operation.annotations
  body : ∀ body, operation.requestBody = some body → Apart ["content"] body.annotations
  responses : ∀ entry ∈ operation.responses, Apart ["description", "content"] entry.2.annotations

theorem Operation.readBack_toJson {operation : Operation} (h : operation.toJson.Survives levels)
    (hapart : operation.IsApart)
    (hdescriptions : ∀ p ∈ operation.parameters, p.description ≠ some .null) :
    readBack Operation.decode levels operation.toJson = some operation := by
  obtain ⟨inner, rfl, hown, hentries⟩ := h.object
  simp only [optionalText, List.forall_mem_append, List.forall_mem_singleton, forall_mem_optionalEntry,
    forall_mem_listEntry] at hentries
  obtain ⟨⟨⟨⟨⟨⟨_, htags⟩, hannotations⟩, hparameters⟩, hbody⟩, hresponses⟩, hsecurity⟩ := hentries
  have hkeys : (Dict.keys operation.annotations).Nodup := by
    refine hown.sublist (List.Sublist.map Prod.fst ?_)
    simp only [List.append_assoc]
    exact (List.sublist_append_left _ _).trans
      ((List.sublist_append_right _ _).trans (List.sublist_append_right _ _))
  have hparameters' : operation.parameters ≠ [] → readBack (list Parameter.decode) inner
      (.array (operation.parameters.map Parameter.toJson)) = some operation.parameters := fun hsome =>
    readBack_list_of_survives (hparameters hsome) fun p hp _ hvalue =>
      Parameter.readBack_toJson hvalue (hdescriptions p hp)
  have hresponses' : readBack (dict Response.decode) inner
      (Dict.toJson Response.toJson operation.responses) = some operation.responses :=
    readBack_dict_of_survives hresponses fun entry hmem _ hvalue =>
      Response.readBack_toJson hvalue (hapart.responses entry hmem)
  exact readBack_openRecord
    (((((((Enters.optional rfl (fun text _ => ⟨by simp, readBack_string text⟩) rfl).append
      (.optional rfl (fun tags hsome => ⟨by simp [Json.strings], readBack_strings (htags tags hsome)⟩) rfl)).append
      (.foreign (by exact hapart.annotations) fun entry hmem =>
        Option.isSome_of_eq_some (hannotations entry hmem).json?)).append
      (.list rfl hparameters' rfl)).append
      (.optional rfl (fun body hsome => ⟨by simp [RequestBody.toJson],
        RequestBody.readBack_toJson (hbody body hsome) (hapart.body body hsome)⟩) rfl)).append
      (.entry rfl hresponses')).append
      (.optional rfl (fun requirements hsome => ⟨by simp,
        readBack_requirements (hsecurity requirements hsome)⟩) rfl))
    (by simp) hannotations hkeys rfl (by decide) (by simp [Dict.keys])

/-! ## Documents -/

/-- No part of the document keeps an entry under the name of one of its own fields. -/
structure Document.IsApart (document : Document) : Prop where
  info : Apart ["title", "version", "description"] document.info.others
  operations : ∀ item ∈ document.paths, ∀ entry ∈ item.2, entry.2.IsApart
  components : Apart ["schemas"] document.components.others

/-- No parameter in the document has `null` for a description. -/
def Document.HasDescriptions (document : Document) : Prop :=
  ∀ item ∈ document.paths, ∀ entry ∈ item.2, ∀ p ∈ entry.2.parameters, p.description ≠ some .null

/-- **A document is read back** as it is. -/
theorem Document.readBack_toJson {document : Document} (h : document.toJson.Survives levels)
    (hapart : document.IsApart) (hdescriptions : document.HasDescriptions) :
    readBack Document.decode levels document.toJson = some document := by
  obtain ⟨inner, rfl, _, hentries⟩ := h.object
  simp only [List.forall_mem_append, List.forall_mem_cons, forall_mem_optionalEntry,
    forall_mem_listEntry] at hentries
  obtain ⟨⟨⟨⟨⟨⟨_, hinfo, _⟩, hservers⟩, hpaths, hcomponents, _⟩, hsecurity⟩, htags⟩, hdocs⟩ := hentries
  have hversion : Dict.get? OpenApiVersion.names document.version.text = some document.version := by
    cases document.version <;> rfl
  have hpaths' : readBack (dict (dict Operation.decode)) inner
      (Dict.toJson (Dict.toJson Operation.toJson) document.paths) = some document.paths :=
    readBack_dict_of_survives hpaths fun item hitem _ hvalue =>
      readBack_dict_of_survives hvalue fun entry hmem _ hoperation =>
        Operation.readBack_toJson hoperation (hapart.operations item hitem entry hmem)
          (hdescriptions item hitem entry hmem)
  exact readBack_of_enters
    ((((((((Enters.entry rfl (readBack_choice hversion)).append
      (.entry rfl (Info.readBack_toJson hinfo hapart.info))).append
      (.list rfl (fun hsome => readBack_list_of_survives (hservers hsome) fun _ _ _ =>
        Server.readBack_toJson) rfl)).append
      ((Enters.entry rfl hpaths').append
      (.entry rfl (Components.readBack_toJson hcomponents hapart.components)))).append
      (.list rfl (fun hsome => readBack_requirements (hsecurity hsome)) rfl)).append
      (.list rfl (fun hsome => readBack_list_of_survives (htags hsome) fun _ _ _ =>
        Tag.readBack_toJson) rfl)).append
      (.optional rfl (fun docs hsome => ⟨by simp [ExternalDocs.toJson],
        ExternalDocs.readBack_toJson (hdocs docs hsome)⟩) rfl)))
    rfl rfl (by decide) (by simp [Dict.keys])

/-- A document is read back from its text. -/
theorem Document.read_compact {document : Document}
    (h : document.toJson.Survives Draft.maxLevels) (hapart : document.IsApart)
    (hdescriptions : document.HasDescriptions) :
    decodeText Document.decode document.toJson.compact = .ok document := by
  rw [decodeText, Json.read_compact h.isFinite]
  exact toOption_eq_some.1 (Document.readBack_toJson h hapart hdescriptions)

end OpenApi

end TypeSchema
