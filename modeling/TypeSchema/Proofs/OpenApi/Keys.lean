import TypeSchema.Proofs.Objects.Keys
import TypeSchema.Proofs.OpenApi.Reading

/-!
# Documents without repeated keys

The parts of a document are written with their fields in a fixed order, so each of their own keys comes
once at most (`OpenApi.Lists`).  A part that keeps entries of its own choosing beside its fields repeats
no key if these do not and if they are apart from the fields (`OpenApi.Apart.nodup`).  A document repeats
a key only where one of its parts does (`OpenApi.Document.hasUniqueKeys_toJson_iff`).
-/

set_option autoImplicit false

namespace TypeSchema

open OpenApi Json

/-! ## Entries in order -/

namespace OpenApi

/-- The entries have some of the names, in their order and each once at most. -/
def Lists (names : List String) (entries : List (String × Json)) : Prop :=
  (Dict.keys entries).Sublist names

namespace Lists

variable {names others : List String} {entries more : List (String × Json)} {key : String}

theorem nil : Lists [] [] := .refl _

theorem cons {value : Json} (h : Lists names entries) :
    Lists (key :: names) ((key, value) :: entries) :=
  h.cons_cons key

theorem optional (key : String) (value : Option Json) : Lists [key] (optionalEntry key value) := by
  cases value with
  | none => exact List.nil_sublist _
  | some value => exact List.Sublist.refl _

theorem list (key : String) (values : List Json) : Lists [key] (listEntry key values) := by
  cases values with
  | nil => exact List.nil_sublist _
  | cons first rest => exact List.Sublist.refl _

theorem append (h : Lists names entries) (hmore : Lists others more) :
    Lists (names ++ others) (entries ++ more) := by
  have heq : Dict.keys (entries ++ more) = Dict.keys entries ++ Dict.keys more := List.map_append
  rw [Lists, heq]
  exact List.Sublist.append h hmore

theorem nodup (h : Lists names entries) (hnames : names.Nodup) : (Dict.keys entries).Nodup :=
  hnames.sublist h

end Lists

/-! ## Entries beside fields -/

namespace Apart

variable {names others : List String} {entries more : Dict Json} {key : String} {value : Json}

theorem sublist (h : Apart names entries) (hsub : more.Sublist entries) : Apart names more :=
  fun entry hmem => h entry (hsub.subset hmem)

theorem insert (h : Apart names entries) (hkey : key ∉ names) :
    Apart names (Dict.insert entries key value) :=
  Dict.forall_mem_insert h hkey

theorem extend (h : Apart names entries) (hmore : Apart names more) :
    Apart names (Dict.extend entries more) :=
  Dict.forall_mem_extend h hmore

/-- A key that is removed may be a field's as well. -/
theorem erase (h : Apart names entries) (hnodup : (Dict.keys entries).Nodup) (key : String) :
    Apart (key :: names) (Dict.erase entries key) := by
  intro entry hmem
  have hown : entry.1 ≠ key := fun heq =>
    Dict.not_mem_keys_erase hnodup (heq ▸ List.mem_map_of_mem hmem)
  exact fun hname => (List.mem_cons.1 hname).elim hown (h entry (Dict.mem_of_mem_erase hmem))

theorem disjoint (h : Apart names entries) : (Dict.keys entries).Disjoint names := by
  intro key hkey hname
  obtain ⟨entry, hmem, rfl⟩ := List.mem_map.1 hkey
  exact h entry hmem hname

/-- Entries may stand between fields. -/
theorem nodup {first last : List (String × Json)} (h : Apart names entries)
    (hentries : (Dict.keys entries).Nodup) (hown : Lists names (first ++ last))
    (hnames : names.Nodup) : (Dict.keys (first ++ entries ++ last)).Nodup := by
  have hperm : (first ++ entries ++ last).Perm (entries ++ (first ++ last)) := by
    rw [← List.append_assoc]
    exact List.perm_append_comm.append_right last
  have heq : Dict.keys (entries ++ (first ++ last)) = Dict.keys entries ++ Dict.keys (first ++ last) :=
    List.map_append
  have hnodup : (Dict.keys (entries ++ (first ++ last))).Nodup :=
    heq ▸ hentries.append (hown.nodup hnames) fun key hkey hname => h.disjoint hkey (hown.subset hname)
  exact (hperm.map Prod.fst).nodup_iff.2 hnodup

end Apart

end OpenApi

/-! ## Dictionaries of parts -/

section Parts

variable {α : Type} {write : α → Json} {entries : Dict α} {key : String} {value : α}

theorem hasUniqueKeys_dict : (Dict.toJson write entries).HasUniqueKeys ↔
    (Dict.keys entries).Nodup ∧ ∀ entry ∈ entries, (write entry.2).HasUniqueKeys := by
  have heq : Dict.keys (entries.map fun entry => (entry.1, write entry.2)) = Dict.keys entries := by
    simp [Dict.keys, Function.comp_def]
  rw [Dict.toJson, hasUniqueKeys_object, heq, List.forall_mem_map]

theorem hasUniqueKeys_dict_insert (h : (Dict.toJson write entries).HasUniqueKeys)
    (hvalue : (write value).HasUniqueKeys) :
    (Dict.toJson write (Dict.insert entries key value)).HasUniqueKeys := by
  rw [Dict.toJson, ← Dict.insert_map]
  exact h.insert hvalue

theorem hasUniqueKeys_dict_insertNew (h : (Dict.toJson write entries).HasUniqueKeys)
    (hvalue : (write value).HasUniqueKeys) :
    (Dict.toJson write (Dict.insertNew entries key value)).HasUniqueKeys := by
  rw [Dict.insertNew]
  split
  · exact h
  · exact hasUniqueKeys_dict_insert h hvalue

theorem hasUniqueKeys_array_map {values : List α} : (Json.array (values.map write)).HasUniqueKeys ↔
    ∀ value ∈ values, (write value).HasUniqueKeys := by
  rw [hasUniqueKeys_array, List.forall_mem_map]

theorem hasUniqueKeys_listEntry {values : List α} :
    (∀ entry ∈ listEntry key (values.map write), entry.2.HasUniqueKeys) ↔
      ∀ value ∈ values, (write value).HasUniqueKeys := by
  rw [forall_mem_listEntry, hasUniqueKeys_array_map]
  exact ⟨fun h value hmem => h (List.ne_nil_of_mem hmem) value hmem, fun h _ => h⟩

theorem hasUniqueKeys_optionalText (key : String) (text : Option String) :
    ∀ entry ∈ optionalText key text, entry.2.HasUniqueKeys :=
  forall_mem_optionalEntry.2 fun text _ => hasUniqueKeys_string text

end Parts

namespace OpenApi

/-! ## What the caller says -/

theorem Info.hasUniqueKeys_toJson {info : Info} (h : (Json.object info.others).HasUniqueKeys)
    (hapart : Apart ["title", "version", "description"] info.others) : info.toJson.HasUniqueKeys := by
  obtain ⟨hkeys, hvalues⟩ := hasUniqueKeys_object.1 h
  have hown : Lists ["title", "version", "description"]
      ([("title", .string info.title), ("version", .string info.version)] ++
        optionalText "description" info.description ++ []) :=
    ((Lists.cons (.cons .nil)).append (.optional _ _)).append .nil
  refine hasUniqueKeys_object.2 ⟨?_, ?_⟩
  · simpa only [List.append_nil] using hapart.nodup hkeys hown (by decide)
  · simp only [List.forall_mem_append, List.forall_mem_cons]
    exact ⟨⟨⟨hasUniqueKeys_string _, hasUniqueKeys_string _, List.forall_mem_nil _⟩,
      hasUniqueKeys_optionalText _ _⟩, hvalues⟩

theorem ExternalDocs.hasUniqueKeys_toJson (docs : ExternalDocs) : docs.toJson.HasUniqueKeys :=
  hasUniqueKeys_object.2 ⟨((Lists.cons .nil).append (.optional _ _)).nodup (by decide),
    List.forall_mem_append.2 ⟨List.forall_mem_singleton.2 (hasUniqueKeys_string _),
      hasUniqueKeys_optionalText _ _⟩⟩

theorem Tag.hasUniqueKeys_toJson (tag : Tag) : tag.toJson.HasUniqueKeys := by
  refine hasUniqueKeys_object.2
    ⟨(((Lists.cons .nil).append (.optional _ _)).append (.optional _ _)).nodup (by decide), ?_⟩
  simp only [List.forall_mem_append, List.forall_mem_singleton]
  exact ⟨⟨hasUniqueKeys_string _, hasUniqueKeys_optionalText _ _⟩,
    forall_mem_optionalEntry.2 fun docs _ => docs.hasUniqueKeys_toJson⟩

theorem Server.hasUniqueKeys_toJson {server : Server}
    (h : ∀ settings, server.settings = some settings → (Json.object settings).HasUniqueKeys) :
    server.toJson.HasUniqueKeys := by
  refine hasUniqueKeys_object.2
    ⟨(((Lists.cons .nil).append (.optional _ _)).append (.optional _ _)).nodup (by decide), ?_⟩
  simp only [List.forall_mem_append, List.forall_mem_singleton]
  exact ⟨⟨hasUniqueKeys_string _, hasUniqueKeys_optionalText _ _⟩, forall_mem_optionalEntry.2 h⟩

theorem SecurityRequirement.hasUniqueKeys_toJson {requirement : SecurityRequirement}
    (h : (Dict.keys requirement).Nodup) : (SecurityRequirement.toJson requirement).HasUniqueKeys :=
  hasUniqueKeys_dict.2 ⟨h, fun _ _ => hasUniqueKeys_strings _⟩

theorem Components.hasUniqueKeys_toJson {components : Components}
    (h : (Json.object components.others).HasUniqueKeys)
    (hapart : Apart ["schemas"] components.others)
    (hschemas : (Dict.toJson Definition.toJson components.schemas).HasUniqueKeys) :
    components.toJson.HasUniqueKeys := by
  obtain ⟨hkeys, hvalues⟩ := hasUniqueKeys_object.1 h
  refine hasUniqueKeys_object.2 ⟨List.nodup_cons.2 ⟨fun hmem => ?_, hkeys⟩,
    List.forall_mem_cons.2 ⟨hschemas, hvalues⟩⟩
  exact hapart.disjoint hmem List.mem_cons_self

/-! ## Operations -/

theorem MediaType.hasUniqueKeys_toJson {media : MediaType} (h : media.schema.HasUniqueKeys) :
    media.toJson.HasUniqueKeys :=
  hasUniqueKeys_object.2 ⟨List.nodup_singleton _, List.forall_mem_singleton.2 h⟩

/-- One schema under one type of content. -/
theorem hasUniqueKeys_content (contentType : String) {schema : Definition}
    (h : schema.HasUniqueKeys) :
    (Dict.toJson MediaType.toJson [(contentType, ⟨schema⟩)]).HasUniqueKeys :=
  hasUniqueKeys_dict.2 ⟨List.nodup_singleton _,
    List.forall_mem_singleton.2 (MediaType.hasUniqueKeys_toJson h)⟩

theorem Parameter.hasUniqueKeys_toJson {p : Parameter} (h : p.schema.HasUniqueKeys)
    (hdescription : ∀ value, p.description = some value → value.HasUniqueKeys) :
    p.toJson.HasUniqueKeys := by
  refine hasUniqueKeys_object.2
    ⟨(((Lists.cons (.cons (.cons .nil))).append (.optional _ _)).append (.cons .nil)).nodup
      (by decide), ?_⟩
  simp only [List.forall_mem_append, List.forall_mem_cons]
  refine ⟨⟨⟨hasUniqueKeys_string _, hasUniqueKeys_string _, hasUniqueKeys_bool _,
    List.forall_mem_nil _⟩, ?_⟩, h, List.forall_mem_nil _⟩
  cases hvalue : p.description with
  | none => exact List.forall_mem_nil _
  | some value => exact List.forall_mem_singleton.2 (hdescription value hvalue)

theorem RequestBody.hasUniqueKeys_toJson {body : RequestBody}
    (h : (Json.object body.annotations).HasUniqueKeys) (hapart : Apart ["content"] body.annotations)
    (hcontent : (Dict.toJson MediaType.toJson body.content).HasUniqueKeys) :
    body.toJson.HasUniqueKeys := by
  obtain ⟨hkeys, hvalues⟩ := hasUniqueKeys_object.1 h
  exact hasUniqueKeys_object.2 ⟨hapart.nodup hkeys (Lists.nil.append (.cons .nil)) (by decide),
    List.forall_mem_append.2 ⟨hvalues, List.forall_mem_singleton.2 hcontent⟩⟩

theorem Response.hasUniqueKeys_toJson {response : Response}
    (h : (Json.object response.annotations).HasUniqueKeys)
    (hapart : Apart ["description", "content"] response.annotations)
    (hdescription : response.description.HasUniqueKeys)
    (hcontent : ∀ content, response.content = some content →
      (Dict.toJson MediaType.toJson content).HasUniqueKeys) : response.toJson.HasUniqueKeys := by
  obtain ⟨hkeys, hvalues⟩ := hasUniqueKeys_object.1 h
  have hown : Lists ["description", "content"] ([("description", response.description)] ++
      optionalEntry "content" (response.content.map (Dict.toJson MediaType.toJson))) :=
    (Lists.cons .nil).append (.optional _ _)
  exact hasUniqueKeys_object.2 ⟨hapart.nodup hkeys hown (by decide), List.forall_mem_append.2
    ⟨List.forall_mem_cons.2 ⟨hdescription, hvalues⟩, forall_mem_optionalEntry.2 hcontent⟩⟩

theorem Operation.hasUniqueKeys_toJson {operation : Operation}
    (h : (Json.object operation.annotations).HasUniqueKeys)
    (hapart : Apart operationKeys operation.annotations)
    (hparameters : ∀ p ∈ operation.parameters, p.toJson.HasUniqueKeys)
    (hbody : ∀ body, operation.requestBody = some body → body.toJson.HasUniqueKeys)
    (hresponses : (Dict.toJson Response.toJson operation.responses).HasUniqueKeys)
    (hsecurity : ∀ requirements, operation.security = some requirements →
      ∀ requirement ∈ requirements, (SecurityRequirement.toJson requirement).HasUniqueKeys) :
    operation.toJson.HasUniqueKeys := by
  obtain ⟨hkeys, hvalues⟩ := hasUniqueKeys_object.1 h
  refine hasUniqueKeys_object.2 ⟨?_, ?_⟩
  · have hown : Lists operationKeys ((optionalText "operationId" operation.operationId ++
        optionalEntry "tags" (operation.tags.map Json.strings)) ++
        (listEntry "parameters" (operation.parameters.map Parameter.toJson) ++
          optionalEntry "requestBody" (operation.requestBody.map RequestBody.toJson) ++
          [("responses", Dict.toJson Response.toJson operation.responses)] ++
          optionalEntry "security" (operation.security.map fun requirements =>
            .array (requirements.map SecurityRequirement.toJson)))) :=
      ((Lists.optional _ _).append (.optional _ _)).append
        ((((Lists.list _ _).append (.optional _ _)).append (.cons .nil)).append (.optional _ _))
    simpa only [List.append_assoc] using hapart.nodup hkeys hown (by decide)
  · simp only [List.forall_mem_append, List.forall_mem_singleton, forall_mem_optionalEntry,
      hasUniqueKeys_listEntry]
    exact ⟨⟨⟨⟨⟨⟨hasUniqueKeys_optionalText _ _, fun tags _ => hasUniqueKeys_strings tags⟩,
      hvalues⟩, hparameters⟩, hbody⟩, hresponses⟩,
      fun requirements hsome => hasUniqueKeys_array_map.2 (hsecurity requirements hsome)⟩

/-! ## Documents -/

variable {document : Document}

/-- No part of the document repeats a key. -/
structure Document.HasUniqueKeys (document : Document) : Prop where
  info : document.info.toJson.HasUniqueKeys
  servers : ∀ server ∈ document.servers, server.toJson.HasUniqueKeys
  paths : (Dict.toJson (Dict.toJson Operation.toJson) document.paths).HasUniqueKeys
  components : document.components.toJson.HasUniqueKeys
  security : ∀ requirement ∈ document.security,
    (SecurityRequirement.toJson requirement).HasUniqueKeys

/-- The document itself has each of its keys once. -/
theorem Document.hasUniqueKeys_toJson_iff :
    document.toJson.HasUniqueKeys ↔ document.HasUniqueKeys := by
  have hown : (Dict.keys ([("openapi", .string document.version.text), ("info", document.info.toJson)] ++
      listEntry "servers" (document.servers.map Server.toJson) ++
      [("paths", Dict.toJson (Dict.toJson Operation.toJson) document.paths),
        ("components", document.components.toJson)] ++
      listEntry "security" (document.security.map SecurityRequirement.toJson) ++
      listEntry "tags" (document.tags.map Tag.toJson) ++
      optionalEntry "externalDocs" (document.externalDocs.map ExternalDocs.toJson))).Nodup :=
    ((((((Lists.cons (.cons .nil)).append (.list _ _)).append (.cons (.cons .nil))).append
      (.list _ _)).append (.list _ _)).append (.optional _ _)).nodup (by decide)
  rw [Document.toJson, hasUniqueKeys_object, and_iff_right hown]
  simp only [List.forall_mem_append, List.forall_mem_cons, hasUniqueKeys_listEntry]
  constructor
  · rintro ⟨⟨⟨⟨⟨⟨_, hinfo, _⟩, hservers⟩, hpaths, hcomponents, _⟩, hsecurity⟩, _⟩, _⟩
    exact ⟨hinfo, hservers, hpaths, hcomponents, hsecurity⟩
  · exact fun h => ⟨⟨⟨⟨⟨⟨hasUniqueKeys_string _, h.info, List.forall_mem_nil _⟩, h.servers⟩, h.paths,
      h.components, List.forall_mem_nil _⟩, h.security⟩, fun tag _ => tag.hasUniqueKeys_toJson⟩,
      forall_mem_optionalEntry.2 fun docs _ => docs.hasUniqueKeys_toJson⟩

end OpenApi

end TypeSchema
