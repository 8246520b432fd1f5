import TypeSchema.Proofs.Json.Decoding
import TypeSchema.Proofs.OpenApi.Keys

/-!
# Documents that are read

Whatever is read as a document, or as what a caller says of one, repeats no key and keeps no entry under
the name of a field (`OpenApi.Document.isTidy_of_decodeText`, `OpenApi.Metadata.isTidy_of_decodeText`).  So
such documents are the ones that are read back from their text, as long as numbers are and nesting is not
too deep (`OpenApi.Document.decodeText_compact_iff`).
-/

set_option autoImplicit false

namespace TypeSchema

open Json Decoder

theorem Definition.ensures_decode : Ensures Definition.decode Definition.HasUniqueKeys :=
  ensures_any.dict.imp fun _ => hasUniqueKeys_object.2

namespace OpenApi

/-! ## What the caller says -/

theorem Info.ensures_decode : Ensures Info.decode fun info =>
    info.toJson.HasUniqueKeys ∧ Apart ["title", "version", "description"] info.others := by
  refine (ensures_openRecord (R := fun _ => True) trivial fun _ _ _ _ => ensures_true _).imp ?_
  rintro _ ⟨info, others, _, rfl, hkeys, hapart⟩
  exact ⟨Info.hasUniqueKeys_toJson hkeys hapart, hapart⟩

theorem Server.ensures_decode : Ensures Server.decode fun server => server.toJson.HasUniqueKeys := by
  refine (ensures_record (R := fun server : Server => ∀ settings, server.settings = some settings →
    (Json.object settings).HasUniqueKeys) (by simp) ?_).imp
    fun _ => Server.hasUniqueKeys_toJson
  simp only [List.forall_mem_cons]
  exact ⟨.required (ensures_true _) fun _ _ h _ => h,
    .nullable (ensures_true _) fun _ _ h _ => h,
    .nullable ensures_any.dict fun _ _ _ hsettings settings hsome =>
      hasUniqueKeys_object.2 (hsettings settings hsome), List.forall_mem_nil _⟩

theorem SecurityRequirement.ensures_decode : Ensures SecurityRequirement.decode fun requirement =>
    (SecurityRequirement.toJson requirement).HasUniqueKeys :=
  (ensures_true _).dict.imp fun _ h => SecurityRequirement.hasUniqueKeys_toJson h.1

theorem Components.ensures_decode : Ensures Components.decode fun components =>
    components.toJson.HasUniqueKeys ∧ Apart ["schemas"] components.others := by
  have hnone : (Dict.toJson Definition.toJson []).HasUniqueKeys := Definition.HasUniqueKeys.empty
  refine (ensures_openRecord (R := fun components : Components =>
    (Dict.toJson Definition.toJson components.schemas).HasUniqueKeys) (by exact hnone) ?_).imp ?_
  · exact List.forall_mem_singleton.2 (.preset Definition.ensures_decode.dict
      fun _ _ _ h => hasUniqueKeys_dict.2 h)
  · rintro _ ⟨components, others, hschemas, rfl, hkeys, hapart⟩
    exact ⟨Components.hasUniqueKeys_toJson hkeys hapart hschemas, hapart⟩

/-! ## Operations -/

theorem Parameter.ensures_decode : Ensures Parameter.decode fun p =>
    p.toJson.HasUniqueKeys ∧ p.description ≠ some .null := by
  refine (ensures_record (R := fun p : Parameter => p.schema.HasUniqueKeys ∧
    ∀ value, p.description = some value → value.HasUniqueKeys ∧ value ≠ .null)
    ⟨Definition.HasUniqueKeys.empty, by simp⟩ ?_).imp ?_
  · simp only [List.forall_mem_cons]
    exact ⟨.required (ensures_true _) fun _ _ h _ => h, .required (ensures_true _) fun _ _ h _ => h,
      .required (ensures_true _) fun _ _ h _ => h,
      .nullable_of ensures_optional_any fun _ _ h hvalue => ⟨h.1, hvalue⟩,
      .required Definition.ensures_decode fun _ _ h hschema => ⟨hschema, h.2⟩, List.forall_mem_nil _⟩
  · rintro p ⟨hschema, hdescription⟩
    exact ⟨Parameter.hasUniqueKeys_toJson hschema fun value hvalue => (hdescription value hvalue).1,
      fun hnull => (hdescription .null hnull).2 rfl⟩

theorem MediaType.ensures_decode : Ensures MediaType.decode fun media => media.toJson.HasUniqueKeys := by
  refine (ensures_record (R := fun media : MediaType => media.schema.HasUniqueKeys)
    Definition.HasUniqueKeys.empty ?_).imp fun _ => MediaType.hasUniqueKeys_toJson
  exact List.forall_mem_singleton.2 (.required Definition.ensures_decode fun _ _ _ h => h)

theorem ensures_content : Ensures (dict MediaType.decode) fun content =>
    (Dict.toJson MediaType.toJson content).HasUniqueKeys :=
  MediaType.ensures_decode.dict.imp fun _ => hasUniqueKeys_dict.2

theorem RequestBody.ensures_decode : Ensures RequestBody.decode fun body =>
    body.toJson.HasUniqueKeys ∧ Apart ["content"] body.annotations := by
  have hnone : (Dict.toJson MediaType.toJson []).HasUniqueKeys := Definition.HasUniqueKeys.empty
  refine (ensures_openRecord (R := fun body : RequestBody =>
    (Dict.toJson MediaType.toJson body.content).HasUniqueKeys) (by exact hnone) ?_).imp ?_
  · exact List.forall_mem_singleton.2 (.required ensures_content fun _ _ _ h => h)
  · rintro _ ⟨body, others, hcontent, rfl, hkeys, hapart⟩
    exact ⟨RequestBody.hasUniqueKeys_toJson hkeys hapart hcontent, hapart⟩

theorem Response.ensures_decode : Ensures Response.decode fun response =>
    response.toJson.HasUniqueKeys ∧ Apart ["description", "content"] response.annotations := by
  refine (ensures_openRecord (R := fun response : Response => response.description.HasUniqueKeys ∧
    ∀ content, response.content = some content →
      (Dict.toJson MediaType.toJson content).HasUniqueKeys) ⟨hasUniqueKeys_null, by simp⟩ ?_).imp ?_
  · simp only [List.forall_mem_cons]
    exact ⟨.required ensures_any fun _ _ h hdescription => ⟨hdescription, h.2⟩,
      .nullable ensures_content fun _ _ h hcontent => ⟨h.1, hcontent⟩, List.forall_mem_nil _⟩
  · rintro _ ⟨response, others, ⟨hdescription, hcontent⟩, rfl, hkeys, hapart⟩
    exact ⟨Response.hasUniqueKeys_toJson hkeys hapart hdescription hcontent, hapart⟩

/-- An operation that repeats no key, keeps its entries apart from its fields, and has no parameter that
is described by `null`. -/
structure Operation.IsTidy (operation : Operation) : Prop where
  keys : operation.toJson.HasUniqueKeys
  apart : operation.IsApart
  descriptions : ∀ p ∈ operation.parameters, p.description ≠ some .null

/-- The parts of an operation are as those of a tidy one. -/
structure Operation.HasTidyParts (operation : Operation) : Prop where
  parameters : ∀ p ∈ operation.parameters, p.toJson.HasUniqueKeys ∧ p.description ≠ some .null
  body : ∀ body, operation.requestBody = some body →
    body.toJson.HasUniqueKeys ∧ Apart ["content"] body.annotations
  responses : (Dict.toJson Response.toJson operation.responses).HasUniqueKeys ∧
    ∀ entry ∈ operation.responses, Apart ["description", "content"] entry.2.annotations
  security : ∀ requirements, operation.security = some requirements →
    ∀ requirement ∈ requirements, (SecurityRequirement.toJson requirement).HasUniqueKeys

theorem Operation.HasTidyParts.isTidy {operation : Operation} (h : operation.HasTidyParts)
    (hkeys : (Json.object operation.annotations).HasUniqueKeys)
    (hapart : Apart operationKeys operation.annotations) : operation.IsTidy where
  keys := Operation.hasUniqueKeys_toJson hkeys hapart (fun p hp => (h.parameters p hp).1)
    (fun body hbody => (h.body body hbody).1) h.responses.1 h.security
  apart := ⟨hapart, fun body hbody => (h.body body hbody).2, h.responses.2⟩
  descriptions p hp := (h.parameters p hp).2

theorem Operation.ensures_decode : Ensures Operation.decode Operation.IsTidy := by
  have hblank : Operation.HasTidyParts {} :=
    ⟨List.forall_mem_nil _, by simp, ⟨Definition.HasUniqueKeys.empty, List.forall_mem_nil _⟩, by simp⟩
  refine (ensures_openRecord hblank ?_).imp ?_
  · simp only [List.forall_mem_cons]
    refine ⟨.nullable (ensures_true _) fun _ _ h _ => { h with },
      .nullable (ensures_true _) fun _ _ h _ => { h with },
      .preset Parameter.ensures_decode.list fun _ _ h hvalue => { h with parameters := hvalue },
      .nullable RequestBody.ensures_decode fun _ _ h hvalue => { h with body := hvalue },
      .required Response.ensures_decode.dict fun _ _ h hvalue => { h with responses := ⟨?_, ?_⟩ },
      .nullable SecurityRequirement.ensures_decode.list fun _ _ h hvalue =>
        { h with security := hvalue }, List.forall_mem_nil _⟩
    · exact hasUniqueKeys_dict.2 ⟨hvalue.1, fun entry hmem => (hvalue.2 entry hmem).1⟩
    · exact fun entry hmem => (hvalue.2 entry hmem).2
  · rintro _ ⟨operation, others, hparts, rfl, hkeys, hapart⟩
    have hgathered : Operation.HasTidyParts { operation with annotations := others } := { hparts with }
    exact hgathered.isTidy hkeys hapart

/-! ## Documents -/

/-- A document that repeats no key, keeps its entries apart from its fields, and has no parameter that is
described by `null`. -/
structure Document.IsTidy (document : Document) : Prop where
  keys : document.HasUniqueKeys
  apart : document.IsApart
  descriptions : document.HasDescriptions

/-- What the caller says repeats no key, and keeps no entry under the name of a field. -/
structure Metadata.IsTidy (metadata : Metadata) : Prop where
  info : ∀ info, metadata.info = some info →
    info.toJson.HasUniqueKeys ∧ Apart ["title", "version", "description"] info.others
  servers : ∀ server ∈ metadata.servers, server.toJson.HasUniqueKeys
  security : ∀ requirement ∈ metadata.security,
    (SecurityRequirement.toJson requirement).HasUniqueKeys
  components : ∀ components, metadata.components = some components →
    components.toJson.HasUniqueKeys ∧ Apart ["schemas"] components.others

theorem Metadata.IsTidy.empty : Metadata.IsTidy {} :=
  ⟨by simp, List.forall_mem_nil _, List.forall_mem_nil _, by simp⟩

theorem Metadata.IsTidy.document {metadata : Metadata} (h : metadata.IsTidy)
    (version : OpenApiVersion) : (Document.ofMetadata version metadata).IsTidy := by
  have hnone : (Json.object []).HasUniqueKeys := Definition.HasUniqueKeys.empty
  have hinfo : (metadata.info.getD {}).toJson.HasUniqueKeys ∧
      Apart ["title", "version", "description"] (metadata.info.getD {}).others := by
    cases hsome : metadata.info with
    | none => exact ⟨Info.hasUniqueKeys_toJson hnone (List.forall_mem_nil _), List.forall_mem_nil _⟩
    | some info => exact h.info info hsome
  have hcomponents : (metadata.components.getD {}).toJson.HasUniqueKeys ∧
      Apart ["schemas"] (metadata.components.getD {}).others := by
    cases hsome : metadata.components with
    | none =>
      exact ⟨Components.hasUniqueKeys_toJson hnone (List.forall_mem_nil _) hnone,
        List.forall_mem_nil _⟩
    | some components => exact h.components components hsome
  exact ⟨⟨hinfo.1, h.servers, hnone, hcomponents.1, h.security⟩,
    ⟨hinfo.2, List.forall_mem_nil _, hcomponents.2⟩, List.forall_mem_nil _⟩

theorem Metadata.ensures_decode : Ensures Metadata.decode Metadata.IsTidy := by
  refine ensures_record .empty ?_
  simp only [List.forall_mem_cons]
  exact ⟨.preset Info.ensures_decode.optional fun _ _ h hvalue => { h with info := hvalue },
    .preset (ensures_true _) fun _ _ h _ => { h with },
    .preset Server.ensures_decode.list fun _ _ h hvalue => { h with servers := hvalue },
    .preset SecurityRequirement.ensures_decode.list fun _ _ h hvalue => { h with security := hvalue },
    .preset (ensures_true _) fun _ _ h _ => { h with },
    .preset Components.ensures_decode.optional fun _ _ h hvalue => { h with components := hvalue },
    List.forall_mem_nil _⟩

/-- What a caller says of a document is tidy if it is read from a text. -/
theorem Metadata.isTidy_of_decodeText {text : String} {metadata : Metadata}
    (h : decodeText Metadata.decode text = .ok metadata) : metadata.IsTidy :=
  Metadata.ensures_decode.decodeText h

theorem Document.ensures_decode : Ensures Document.decode Document.IsTidy := by
  refine ensures_record (Metadata.IsTidy.empty.document .v30) ?_
  simp only [List.forall_mem_cons]
  refine ⟨.required (ensures_true _) fun _ _ h _ =>
      ⟨{ h.keys with }, { h.apart with }, h.descriptions⟩,
    .required Info.ensures_decode fun _ _ h hvalue =>
      ⟨{ h.keys with info := hvalue.1 }, { h.apart with info := hvalue.2 }, h.descriptions⟩,
    .preset Server.ensures_decode.list fun _ _ h hvalue =>
      ⟨{ h.keys with servers := hvalue }, { h.apart with }, h.descriptions⟩,
    .required Operation.ensures_decode.dict.dict fun _ _ h hvalue => ⟨{ h.keys with paths := ?_ },
      { h.apart with operations := fun item hitem entry hentry =>
          ((hvalue.2 item hitem).2 entry hentry).apart },
      fun item hitem entry hentry => ((hvalue.2 item hitem).2 entry hentry).descriptions⟩,
    .required Components.ensures_decode fun _ _ h hvalue =>
      ⟨{ h.keys with components := hvalue.1 }, { h.apart with components := hvalue.2 },
        h.descriptions⟩,
    .preset SecurityRequirement.ensures_decode.list fun _ _ h hvalue =>
      ⟨{ h.keys with security := hvalue }, { h.apart with }, h.descriptions⟩,
    .preset (ensures_true _) fun _ _ h _ => ⟨{ h.keys with }, { h.apart with }, h.descriptions⟩,
    .nullable (ensures_true _) fun _ _ h _ => ⟨{ h.keys with }, { h.apart with }, h.descriptions⟩,
    List.forall_mem_nil _⟩
  exact hasUniqueKeys_dict.2 ⟨hvalue.1, fun item hitem => hasUniqueKeys_dict.2
    ⟨(hvalue.2 item hitem).1, fun entry hentry => ((hvalue.2 item hitem).2 entry hentry).keys⟩⟩

/-- **A document that is read is tidy.** -/
theorem Document.isTidy_of_decodeText {text : String} {document : Document}
    (h : decodeText Document.decode text = .ok document) : document.IsTidy :=
  Document.ensures_decode.decodeText h

/-- **The documents that are read back are the tidy ones**, as long as they do not nest too deep and
every number in them is read back. -/
theorem Document.decodeText_compact_iff {document : Document}
    (hnests : document.toJson.NestsWithin Draft.maxLevels)
    (hnumbers : document.toJson.AllNumbers Number.IsStable) :
    decodeText Document.decode document.toJson.compact = .ok document ↔ document.IsTidy :=
  ⟨Document.isTidy_of_decodeText, fun h => Document.read_compact
    ⟨hnests, Document.hasUniqueKeys_toJson_iff.2 h.keys, hnumbers⟩ h.apart h.descriptions⟩

end OpenApi

end TypeSchema
