import TypeSchema.Proofs.Building.Operations
import TypeSchema.Proofs.OpenApi.Keys

/-!
# Operations of shapes

An operation, a body and a response keep what doc comments say beside their fields, and an operation
keeps literal members of its shape as well.  A tag may enter any name, as the parent of a keyword, so it
may enter the name of a field.  Where no tag of a shape or of a response does, and no member
(`Catalog.KeepsApart`), the operation that the shape describes repeats no key and keeps its entries apart
from its fields (`Catalog.KeysGiven.answers_operation`).
-/

set_option autoImplicit false

namespace TypeSchema

open OpenApi Json Contract

/-! ## Doc comments -/

/-- A keyword is emitted as it is, or with the lead if it is a custom one. -/
theorem Keywords.of_emitted? {keywords : Keywords} {name emitted : String}
    (h : keywords.emitted? name = some emitted) :
    emitted ∈ validationKeywords ++ openApiKeywords ∨
      ∃ custom ∈ keywords.custom, emitted = keywords.lead ++ custom := by
  obtain ⟨kind, hkind, rfl⟩ := Option.map_eq_some_iff.1 h
  rw [classify?] at hkind
  split at hkind
  · rename_i hvalidation
    cases hkind
    exact .inl (List.mem_append_left _ (List.contains_iff_mem.1 hvalidation))
  · split at hkind
    · rename_i hopenApi
      cases hkind
      exact .inl (List.mem_append_right _ (List.contains_iff_mem.1 hopenApi))
    · split at hkind
      · rename_i hcustom
        cases hkind
        exact .inr ⟨name, List.contains_iff_mem.1 hcustom, rfl⟩
      · cases hkind

namespace AnnotationReader

variable {reader : AnnotationReader} {symbol : Symbol} {annotations done : Annotations}
  {names : List String}

/-- No tag of the symbol enters one of the names. -/
def Avoids (reader : AnnotationReader) (names : List String) (symbol : Symbol) : Prop :=
  ∀ tag ∈ symbol.tags, ∀ key, reader.entered? tag = some key → key ∉ names

/-- No keyword is emitted as `body`, so that a doc comment says of the body only what it says as
keywords, and none of these is `content`. -/
def SparesBody (reader : AnnotationReader) : Prop :=
  ∀ name emitted, reader.keywords.emitted? name = some emitted → emitted ∉ ["body", "content"]

theorem apart_extend (havoids : reader.Avoids names symbol) (hnames : "description" ∉ names)
    (h : Apart names annotations.definition) (hextend : reader.extend annotations symbol = .ok done) :
    Apart names done.definition :=
  extend_induction (P := fun a => Apart names a.definition) h (fun _ _ h => h.insert hnames)
    (fun _ tag htag key _ h hkey _ => h.insert (havoids tag htag key hkey)) (fun _ _ _ h _ => h)
    hextend

/-- What is said of the body is apart from its content. -/
theorem apart_body_extend (hspares : reader.SparesBody)
    (h : ∀ fields, annotations.definition.get? "body" = some (.object fields) →
      Apart ["content"] fields)
    (hextend : reader.extend annotations symbol = .ok done) :
    ∀ fields, done.definition.get? "body" = some (.object fields) → Apart ["content"] fields := by
  refine extend_induction
    (P := fun a => ∀ fields, a.definition.get? "body" = some (.object fields) →
      Apart ["content"] fields) h ?_ ?_ (fun _ _ _ h _ => h) hextend
  · intro before text hbefore fields hget
    exact hbefore fields ((Definition.get?_insert_of_ne (by decide)).symm.trans hget)
  · intro before tag _ key value hbefore _ hsaid fields hget
    have hfound : (if key = "body" then some value else before.definition.get? "body") =
        some (.object fields) := (Definition.get?_insert _ _ _ _).symm.trans hget
    by_cases hkey : key = "body"
    · rw [if_pos hkey] at hfound
      obtain rfl := Option.some.inj hfound
      subst hkey
      cases hsaid with
      | value _ hemitted => exact absurd List.mem_cons_self (hspares _ _ hemitted)
      | nested _ hsub hinner =>
        have hnew := fun hmem => hspares _ _ hsub (List.mem_cons_of_mem _ hmem)
        rcases hinner with hthere | rfl
        · exact (hbefore _ hthere).insert hnew
        · exact Apart.insert (List.forall_mem_nil _) hnew
    · rw [if_neg hkey] at hfound
      exact hbefore fields hfound

end AnnotationReader

namespace Catalog

/-! ## Shapes -/

/-- The keys of an operation's own that a doc comment does not fill. -/
def filledKeys : List String :=
  ["parameters", "requestBody", "responses", "security"]

/-- Nothing that a shape says or has is entered under the name of a field: no tag of the shape, no
literal member that is to become an entry, and no tag of a response. -/
structure KeepsApart (catalog : Catalog) (shape : TypeNode) : Prop where
  tags : ∀ id symbol, shape.namingSymbol = some id → catalog.graph.lookupSymbol id = .ok symbol →
    catalog.reader.Avoids filledKeys symbol
  members : catalog.options.customOperationEntries = true → ∀ property ∈ shape.properties,
    ∀ symbol, catalog.graph.lookupSymbol property.symbol = .ok symbol →
      symbol.name ∉ shapeMembers → symbol.name.startsWith "x-" = false →
        catalog.options.customLead ++ symbol.name ∉ operationKeys
  responses : ∀ property ∈ shape.properties, ∀ symbol,
    catalog.graph.lookupSymbol property.symbol = .ok symbol → symbol.name = "responses" →
      ∀ node, catalog.graph.lookupType property.type = .ok node →
        ∀ response ∈ node.properties, ∀ named,
          catalog.graph.lookupSymbol response.symbol = .ok named →
            catalog.reader.Avoids ["content"] named

end Catalog

namespace OpenApi

variable {definition : Definition}

/-- What the doc comment of a shape says leaves the names of fields alone. -/
structure Spares (definition : Definition) : Prop where
  keys : definition.HasUniqueKeys
  own : Apart Catalog.filledKeys definition
  body : ∀ fields, definition.get? "body" = some (.object fields) → Apart ["content"] fields

theorem Spares.empty : Spares Definition.empty :=
  ⟨.empty, List.forall_mem_nil _, fun _ h => nomatch h⟩

theorem Spares.others (h : Spares definition) :
    (Json.object (ShapeKeywords.ofDefinition definition).others).HasUniqueKeys ∧
      Apart operationKeys (ShapeKeywords.ofDefinition definition).others := by
  have htags := Dict.erase_sublist definition "tags"
  have hbody := (Dict.erase_sublist (Dict.erase definition "tags") "body")
  have hid := Dict.erase_sublist (Dict.erase (Dict.erase definition "tags") "body") "operationId"
  have hkeys := h.keys.sublist (hbody.trans htags)
  have hapart := ((h.own.erase h.keys.nodup "tags").sublist hbody).erase
    (hasUniqueKeys_object.1 hkeys).1 "operationId"
  exact ⟨hkeys.sublist hid, hapart⟩

theorem Spares.bodyKeywords (h : Spares definition) :
    (Json.object (ShapeKeywords.ofDefinition definition).body).HasUniqueKeys ∧
      Apart ["content"] (ShapeKeywords.ofDefinition definition).body := by
  rw [ShapeKeywords.ofDefinition]
  dsimp only
  cases hget : definition.get? "body" with
  | none => exact ⟨Definition.HasUniqueKeys.empty, List.forall_mem_nil _⟩
  | some value =>
    cases value with
    | object fields =>
      exact ⟨h.keys.get? hget, h.body fields hget⟩
    | _ => exact ⟨Definition.HasUniqueKeys.empty, List.forall_mem_nil _⟩

end OpenApi

/-! ## Looking up schemas -/

namespace Definition.HasUniqueKeys

variable {definition : Definition} {context : Context}

theorem resolve (h : definition.HasUniqueKeys)
    (htable : ∀ entry ∈ context.reffed, entry.2.HasUniqueKeys) :
    (OpenApi.resolve context definition).HasUniqueKeys := by
  rcases resolve_eq context definition with heq | ⟨_, known, hget, heq⟩
  · rw [heq]
    exact h
  · rw [heq]
    exact htable _ (Dict.mem_of_get? hget)

theorem parameterBranches (h : definition.HasUniqueKeys)
    (htable : ∀ entry ∈ context.reffed, entry.2.HasUniqueKeys) :
    ∀ branch ∈ OpenApi.parameterBranches context definition, branch.HasUniqueKeys := by
  intro branch hbranch
  rcases mem_parameterBranches hbranch with rfl | ⟨items, source, hitems, hsource, rfl⟩
  · exact h
  · have hobject : source.HasUniqueKeys := Json.hasUniqueKeys_array.1 (h.get? hitems) _ hsource
    exact hobject.resolve htable

theorem branchParameters {location : ParameterLocation} (h : definition.HasUniqueKeys) :
    ∀ p ∈ OpenApi.branchParameters location definition, p.toJson.HasUniqueKeys := by
  intro p hp
  obtain ⟨properties, name, schema, hproperties, hmem, rfl⟩ := mem_branchParameters hp
  have hschema : schema.HasUniqueKeys := (hasUniqueKeys_object.1 (h.get? hproperties)).2 _ hmem
  exact Parameter.hasUniqueKeys_toJson hschema fun value hvalue => hschema.get? hvalue

end Definition.HasUniqueKeys

/-- Requirements have each scheme once, whatever they are taken from. -/
theorem hasUniqueKeys_requirements {context : Context} {schema : Definition}
    {requirements : List SecurityRequirement}
    (h : requirements? context schema = some requirements) :
    ∀ requirement ∈ requirements, (SecurityRequirement.toJson requirement).HasUniqueKeys := by
  intro requirement hmem
  rw [requirements?] at h
  split at h
  · obtain ⟨items, _, hmap⟩ := Option.bind_eq_some_iff.1 h
    obtain ⟨alternative, _, hsome⟩ := Decoder.exists_of_mem_of_mapM_eq_some hmap requirement hmem
    obtain ⟨properties, _, rfl⟩ := Option.map_eq_some_iff.1 hsome
    exact SecurityRequirement.hasUniqueKeys_toJson (Dict.nodup_keys_ofEntries _)
  · cases h

/-! ## The members of a shape -/

namespace Catalog.KeysGiven

variable {catalog : Catalog} (h : catalog.KeysGiven) {p : Progress} {α : Type}

/-- What keeps the definitions in the table from repeating a key. -/
def contract (h : catalog.KeysGiven) : Contract catalog :=
  catalog.keepsTable Definition.HasUniqueKeys .empty fun _ _ _ hcompletes => hcompletes.hasUniqueKeys h

theorem answers_build (id : TypeId) (named : Option SymbolId) :
    h.contract.Answers p (catalog.build (catalog.member id named)) fun schema _ =>
      schema.HasUniqueKeys := by
  have hdescribed : catalog.Described (catalog.member id named) := fun _ h => nomatch h
  exact (answers_buildWithin _ _ _ hdescribed trivial).imp fun _ _ hanswer =>
    hanswer.2.hasUniqueKeys h nofun

theorem answers_memberSchema (id : TypeId) :
    h.contract.Answers p (catalog.memberSchema id) fun schema _ => schema.HasUniqueKeys := by
  rw [Catalog.memberSchema]
  refine .type fun node _ => (h.answers_build id _).bind fun schema q _ hschema => ?_
  exact .context fun hq => (Answers.pure (hschema.resolve hq.inv)) hq

theorem answers_parameters (shape key : String) (location : ParameterLocation) (id : TypeId) :
    h.contract.Answers p (catalog.parameters shape key location id) fun parameters _ =>
      ∀ parameter ∈ parameters, parameter.toJson.HasUniqueKeys := by
  rw [Catalog.parameters]
  refine .type fun node _ => ?_
  split
  · exact .pure (List.forall_mem_nil _)
  · refine (answers_isPlainObject _).bind fun isPlain q _ _ => ?_
    split
    · refine (h.answers_memberSchema id).bind fun schema r _ hschema => ?_
      refine .context fun hr => (Answers.pure ?_) hr
      intro parameter hparameter
      obtain ⟨branch, hbranch, hmem⟩ := List.mem_flatMap.1 hparameter
      exact (hschema.parameterBranches hr.inv branch hbranch).branchParameters parameter hmem
    · exact .throw fun _ => by simp

theorem answers_requestBody (shape : String) {keywords : Dict Json}
    (hkeywords : (Json.object keywords).HasUniqueKeys) (hapart : OpenApi.Apart ["content"] keywords)
    (id : TypeId) :
    h.contract.Answers p (catalog.requestBody shape keywords id) fun answer _ =>
      ∀ body, answer = some body →
        body.toJson.HasUniqueKeys ∧ OpenApi.Apart ["content"] body.annotations := by
  have hsub := Dict.erase_sublist keywords "contentType"
  rw [Catalog.requestBody]
  refine .type fun node _ => ?_
  split
  · exact .pure fun _ h => by cases h
  · refine (answers_isPlainObject _).bind fun isPlain q _ _ => ?_
    split
    · refine (h.answers_build id _).bind fun schema r _ hschema => .pure ?_
      intro body hbody
      cases hbody
      exact ⟨RequestBody.hasUniqueKeys_toJson (hkeywords.sublist hsub) (hapart.sublist hsub)
        (hasUniqueKeys_content _ hschema), hapart.sublist hsub⟩
    · exact .throw fun _ => by simp

theorem answers_describeResponse {property : Property}
    (havoids : ∀ symbol, catalog.graph.lookupSymbol property.symbol = .ok symbol →
      catalog.reader.Avoids ["content"] symbol) (node : TypeNode) :
    h.contract.Answers p (catalog.describeResponse property node) fun response _ =>
      response.toJson.HasUniqueKeys ∧
        OpenApi.Apart ["description", "content"] response.annotations := by
  rw [Catalog.describeResponse]
  refine .annotations fun annotations howner => ?_
  obtain ⟨symbol, hsymbol, hread⟩ := id howner
  have hkeys : annotations.definition.HasUniqueKeys := howner.hasUniqueKeys
  have hnone : OpenApi.Apart ["content"] Definition.empty := List.forall_mem_nil _
  have hown : OpenApi.Apart ["content"] annotations.definition :=
    AnnotationReader.apart_extend (havoids symbol hsymbol) (by decide) hnone hread
  have htyped := Dict.erase_sublist annotations.definition "contentType"
  have hrest := (hkeys.sublist htyped).sublist (Dict.erase_sublist _ "description")
  have hapart := (hown.sublist htyped).erase
    (hasUniqueKeys_object.1 (hkeys.sublist htyped)).1 "description"
  have hdescription :
      ((annotations.definition.get? "description").getD (.string "")).HasUniqueKeys := by
    cases hget : annotations.definition.get? "description" with
    | none => exact hasUniqueKeys_string ""
    | some value => exact hkeys.get? hget
  dsimp only
  split
  · exact .pure ⟨Response.hasUniqueKeys_toJson hrest hapart hdescription (fun _ h => by cases h), hapart⟩
  · refine (h.answers_build _ _).bind fun schema q _ hschema => .pure ⟨?_, hapart⟩
    refine Response.hasUniqueKeys_toJson hrest hapart hdescription fun content hcontent => ?_
    cases hcontent
    exact hasUniqueKeys_content _ hschema

theorem answers_response (shape : String) {property : Property}
    (havoids : ∀ symbol, catalog.graph.lookupSymbol property.symbol = .ok symbol →
      catalog.reader.Avoids ["content"] symbol) :
    h.contract.Answers p (catalog.response shape property) fun answer _ =>
      answer.2.toJson.HasUniqueKeys ∧
        OpenApi.Apart ["description", "content"] answer.2.annotations := by
  rw [Catalog.response]
  refine .symbol fun symbol _ => ?_
  dsimp only
  split
  · exact .throw_bind fun _ => by simp
  · refine .type fun node _ => (answers_checkResponse _ _ _).bind fun _ q _ _ => ?_
    exact (h.answers_describeResponse havoids _).map fun _ _ h => h

theorem answers_responses (shape : String) {id : TypeId}
    (havoids : ∀ node, catalog.graph.lookupType id = .ok node → ∀ response ∈ node.properties,
      ∀ symbol, catalog.graph.lookupSymbol response.symbol = .ok symbol →
        catalog.reader.Avoids ["content"] symbol) :
    h.contract.Answers p (catalog.responses shape id) fun responses _ =>
      (Dict.toJson Response.toJson responses).HasUniqueKeys ∧
        ∀ entry ∈ responses, OpenApi.Apart ["description", "content"] entry.2.annotations := by
  rw [Catalog.responses]
  refine .type fun node hnode => (answers_isPlainObject _).bind fun isPlain q _ _ => ?_
  split
  · exact .throw_bind fun _ => by simp
  · refine (Answers.mapM _ (fun _ _ _ _ h => h) fun property hproperty _ _ =>
      h.answers_response shape (havoids node hnode property hproperty)).map fun entries r hentries => ?_
    have hmem : ∀ entry ∈ Dict.ofEntries entries, entry.2.toJson.HasUniqueKeys ∧
        OpenApi.Apart ["description", "content"] entry.2.annotations :=
      fun entry hentry => hentries entry (Dict.mem_of_mem_ofEntries hentry)
    exact ⟨hasUniqueKeys_dict.2 ⟨Dict.nodup_keys_ofEntries _, fun entry hentry => (hmem entry hentry).1⟩,
      fun entry hentry => (hmem entry hentry).2⟩

theorem answers_securityRequirements (shape : String) (id : TypeId) :
    h.contract.Answers p (catalog.securityRequirements shape id) fun requirements _ =>
      ∀ requirement ∈ requirements, (SecurityRequirement.toJson requirement).HasUniqueKeys := by
  rw [Catalog.securityRequirements]
  refine (h.answers_memberSchema id).bind fun schema q _ _ => .context ?_
  split
  · rename_i found hfound
    exact .pure (hasUniqueKeys_requirements hfound)
  · exact .throw fun _ => by simp

theorem answers_security (shape : String) (id : TypeId) :
    h.contract.Answers p (do return some (← catalog.securityRequirements shape id)) fun answer _ =>
      ∀ requirements, answer = some requirements →
        ∀ requirement ∈ requirements, (SecurityRequirement.toJson requirement).HasUniqueKeys := by
  refine (h.answers_securityRequirements shape id).map fun found _ hfound requirements hsome => ?_
  cases hsome
  exact hfound

omit h in
theorem answers_shapeAnnotations {C : Contract catalog} {node : TypeNode}
    (hspares : catalog.reader.SparesBody) (hshape : catalog.KeepsApart node) :
    C.Answers p (catalog.shapeAnnotations node) fun answer _ => Spares answer.1.definition := by
  rw [Catalog.shapeAnnotations]
  split
  · rename_i id hnamed
    refine .annotations fun annotations howner => .symbol fun symbol _ => .pure ?_
    have hkeys : annotations.definition.HasUniqueKeys := howner.hasUniqueKeys
    obtain ⟨symbol, hsymbol, hread⟩ := howner
    have hnone : OpenApi.Apart filledKeys Definition.empty := List.forall_mem_nil _
    exact ⟨hkeys, AnnotationReader.apart_extend (hshape.tags id symbol hnamed hsymbol) (by decide)
      hnone hread, AnnotationReader.apart_body_extend hspares Spares.empty.body hread⟩
  · exact .pure .empty

/-- A name with the lead of extensions is none of an operation's own. -/
theorem not_mem_operationKeys {name : String} (h : name.startsWith "x-" = true) :
    name ∉ operationKeys := by
  intro hmem
  simp only [operationKeys, List.mem_cons, List.not_mem_nil, or_false] at hmem
  rcases hmem with rfl | rfl | rfl | rfl | rfl | rfl <;> revert h <;> decide +kernel

omit h in
theorem answers_customEntries {C : Contract catalog} {node : TypeNode}
    (hshape : catalog.KeepsApart node) :
    C.Answers p (catalog.customEntries node) fun entries _ =>
      OpenApi.Apart operationKeys entries ∧ ∀ entry ∈ entries, entry.2.HasUniqueKeys := by
  rw [Catalog.customEntries]
  split
  · rename_i hasked
    refine (Answers.mapM (G := fun answer _ => ∀ entry, answer = some entry →
      entry.1 ∉ operationKeys ∧ entry.2.HasUniqueKeys) _ (fun _ _ _ _ h => h) ?_).map ?_
    · intro property hproperty q _
      rw [Catalog.customEntry]
      refine .symbol fun symbol hsymbol => ?_
      dsimp only
      split
      · exact .pure fun _ h => by cases h
      · rename_i hother
        refine .type fun type _ => .pure fun entry hentry => ?_
        obtain ⟨value, _, rfl⟩ := Option.map_eq_some_iff.1 hentry
        refine ⟨?_, (Literal.isFlat_toJson value).hasUniqueKeys⟩
        split
        · exact not_mem_operationKeys ‹_›
        · rename_i hplain
          exact hshape.members hasked property hproperty symbol hsymbol
            (by simpa using hother) (by simpa using hplain)
    · intro answers q hanswers
      have hall := fun entry hmem => hanswers (some entry) (List.reduceOption_mem_iff.1 hmem) entry rfl
      exact ⟨fun entry hmem => (hall entry hmem).1, fun entry hmem => (hall entry hmem).2⟩
  · exact .pure ⟨List.forall_mem_nil _, List.forall_mem_nil _⟩

/-! ## Operations -/

/-- **An operation repeats no key and keeps its entries apart from its fields.** -/
theorem answers_operation (hspares : catalog.reader.SparesBody) {id : TypeId}
    (hshape : ∀ node, catalog.graph.lookupType id = .ok node → catalog.KeepsApart node)
    (shape : String) :
    h.contract.Answers p (catalog.operation shape id) fun answer _ => ∀ placed, answer = some placed →
      placed.operation.toJson.HasUniqueKeys ∧ placed.operation.IsApart := by
  rw [Catalog.operation]
  refine .type fun node hnode => (answers_shapeAnnotations hspares (hshape node hnode)).bind
    fun answer _ _ hspared => ?_
  dsimp only
  split
  · exact .pure fun _ h => by cases h
  obtain ⟨hothers, hapart⟩ := hspared.others
  obtain ⟨hbody, hcontent⟩ := hspared.bodyKeywords
  refine (answers_requiredMember _ _ _).bind fun pathMember _ _ _ => ?_
  refine (answers_requiredMember _ _ _).bind fun methodMember _ _ _ => ?_
  refine (answers_requiredMember _ _ _).bind fun responsesMember _ _ hmember => ?_
  obtain ⟨hmember, symbol, hsymbol, hname⟩ := hmember
  refine (answers_literalMember _ _ _).bind fun path _ _ _ => ?_
  refine (answers_shapeMethod _ _).bind fun method _ _ _ => ?_
  refine (answers_withMember (fun _ => List.forall_mem_nil _) fun id _ _ =>
    h.answers_parameters _ _ _ id).bind fun inPath _ _ hinPath => ?_
  refine (answers_withMember (fun _ => List.forall_mem_nil _) fun id _ _ =>
    h.answers_parameters _ _ _ id).bind fun inQuery _ _ hinQuery => ?_
  refine (answers_withMember (fun _ _ h => by cases h) fun id _ _ =>
    h.answers_requestBody _ hbody hcontent id).bind fun body _ _ hbodies => ?_
  refine (h.answers_responses _ ((hshape node hnode).responses _ hmember symbol hsymbol hname)).bind
    fun responses _ _ hresponses => ?_
  refine (answers_withMember (fun _ _ h => by cases h) fun id _ _ =>
    h.answers_security _ id).bind fun security _ _ hsecurity => ?_
  refine (answers_customEntries (hshape node hnode)).bind fun custom _ _ hcustom => .pure ?_
  rintro placed hplaced
  cases hplaced
  have hentries := hapart.extend hcustom.1
  have hparameters : ∀ p ∈ inPath ++ inQuery, p.toJson.HasUniqueKeys :=
    List.forall_mem_append.2 ⟨hinPath, hinQuery⟩
  exact ⟨Operation.hasUniqueKeys_toJson (hothers.extend hcustom.2) hentries hparameters
    (fun body hbody => (hbodies body hbody).1) hresponses.1 hsecurity,
    ⟨hentries, fun body hbody => (hbodies body hbody).2, hresponses.2⟩⟩

end Catalog.KeysGiven

end TypeSchema
