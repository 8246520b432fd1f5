import TypeSchema.Proofs.Building.Descent
import TypeSchema.Proofs.References.Documents

/-!
# Operations keep every contract

A call asks for schemas while nothing is under construction, so the contract allows for the requests
it makes (`answers_build`).  The operation that a shape describes puts such schemas into parameters,
a body and responses; what else it holds are keywords of doc comments, and, if the options ask for
them, custom entries whose keys a program chooses.
-/

set_option autoImplicit false

namespace TypeSchema

namespace OpenApi

/-! ## What is looked up -/

variable {context : Context} {definition : Definition}

/-- A reference that is in the table is looked up, and everything else is left as it is. -/
theorem resolve_eq (context : Context) (definition : Definition) :
    resolve context definition = definition ∨ ∃ name known,
      Dict.get? context.reffed name = some known ∧ resolve context definition = known := by
  rw [resolve]
  split
  · rename_i target _
    cases hget : Dict.get? context.reffed (Text.afterLast '/' target) with
    | none => exact .inl rfl
    | some known => exact .inr ⟨_, known, hget, rfl⟩
  · exact .inl rfl

/-- A branch is the schema itself, or comes from an object of an intersection. -/
theorem mem_parameterBranches {branch : Definition}
    (h : branch ∈ parameterBranches context definition) :
    branch = definition ∨ ∃ items source, definition.get? "allOf" = some (.array items) ∧
      .object source ∈ items ∧ branch = resolve context source := by
  rw [parameterBranches] at h
  split at h
  · rename_i items hitems
    obtain ⟨source, hsource, rfl⟩ := List.mem_map.1 h
    obtain ⟨value, hvalue, hobject⟩ := List.mem_filterMap.1 hsource
    obtain ⟨all, hall, hlist⟩ := Option.bind_eq_some_iff.1 hitems
    rw [Json.eq_object_of_fields? hobject] at hvalue
    exact .inr ⟨items, source, Json.eq_array_of_items? hlist ▸ hall, hvalue, rfl⟩
  · exact .inl (List.mem_singleton.1 h)

/-- A parameter is a property whose schema is an object. -/
theorem mem_branchParameters {location : ParameterLocation} {parameter : Parameter}
    (h : parameter ∈ branchParameters location definition) :
    ∃ properties name schema, definition.get? "properties" = some (.object properties) ∧
      (name, .object schema) ∈ properties ∧
        parameter = { name, location, isRequired := definition.requires name
                      description := schema.get? "description", schema } := by
  obtain ⟨⟨name, value⟩, hentry, hsome⟩ := List.mem_filterMap.1 h
  obtain ⟨schema, hobject, rfl⟩ := Option.map_eq_some_iff.1 hsome
  cases hproperties : definition.properties? with
  | none => simp [hproperties] at hentry
  | some properties =>
    simp only [hproperties, Option.getD_some, Json.eq_object_of_fields? hobject] at hentry
    exact ⟨properties, name, schema, Definition.get?_of_properties? hproperties, hentry, rfl⟩

end OpenApi

namespace Contract

open OpenApi Json

variable {catalog : Catalog} {C : Contract catalog} {p : Progress} {definition : Definition}
  {α : Type}

/-- A request that a call makes itself. -/
theorem answers_build {id : TypeId} (hroot : C.root id) (hguard : p.context.guard = [])
    (named : Option SymbolId) :
    C.Answers p (catalog.build (catalog.member id named)) C.Good := by
  have hdescribed : catalog.Described (catalog.member id named) := fun _ h => nomatch h
  exact (answers_buildWithin _ _ _ hdescribed (C.ask_root hroot hguard)).imp fun _ _ h => h.1.1

/-! ## Looking up references -/

theorem good_resolve (hp : C.Holds p) (h : C.Good definition p) :
    C.Good (OpenApi.resolve p.context definition) p := by
  rcases resolve_eq p.context definition with heq | ⟨_, known, hget, heq⟩
  · rw [heq]
    exact h
  · rw [heq]
    exact C.inv_known hp.inv hget

theorem good_parameterBranches (hp : C.Holds p) (h : C.Good definition p) :
    ∀ branch ∈ parameterBranches p.context definition, C.Good branch p := by
  intro branch hbranch
  rcases mem_parameterBranches hbranch with rfl | ⟨items, source, hitems, hsource, rfl⟩
  · exact h
  · exact good_resolve hp (refersOnly_array.1 (h.get? hitems) _ hsource)

theorem refersOnly_branchParameters {location : ParameterLocation} (h : C.Good definition p) :
    ∀ parameter ∈ branchParameters location definition, C.Allows parameter.toJson p := by
  intro parameter hparameter
  obtain ⟨properties, name, schema, hproperties, hschema, rfl⟩ := mem_branchParameters hparameter
  exact refersOnly_parameter (refersOnly_object.1 (h.get? hproperties) _ hschema).2 rfl

/-! ## The members of a shape -/

theorem answers_types (types : List TypeId) :
    C.Answers p (types.mapM catalog.type) fun _ _ => True :=
  (Answers.mapM (G := fun _ _ => True) types (fun _ _ _ _ h => h) fun _ _ q _ =>
    fun hq => (BuildM.Post.find (fun _ _ => ⟨hq, .refl q, trivial⟩) fun _ =>
      ⟨C.fault_other fun _ => nofun, hq.inv⟩)).imp fun _ _ _ => trivial

theorem answers_isPlainObject (node : TypeNode) :
    C.Answers p (catalog.isPlainObject node) fun _ _ => True := by
  rw [Catalog.isPlainObject]
  split
  · exact .pure trivial
  · exact (answers_types _).map fun _ _ _ => trivial
  · exact .pure trivial

/-- The member that is found is one of the shape, and it has the name. -/
theorem answers_shapeMember? (node : TypeNode) (key : String) :
    C.Answers p (catalog.shapeMember? node key) fun answer _ => ∀ property, answer = some property →
      property ∈ node.properties ∧ ∃ symbol, catalog.graph.lookupSymbol property.symbol = .ok symbol ∧
        symbol.name = key := by
  rw [Catalog.shapeMember?]
  refine (Answers.each (R := fun _ property (entry : String × Property) => entry.2 = property ∧
    ∃ symbol, catalog.graph.lookupSymbol property.symbol = .ok symbol ∧ symbol.name = entry.1)
    _ (fun _ _ _ _ _ h => h) fun property _ q _ => .symbol fun symbol hsymbol =>
      .pure ⟨rfl, symbol, hsymbol, rfl⟩).map fun named q hnamed property hfound => ?_
  obtain ⟨entry, hentry, rfl⟩ := Option.map_eq_some_iff.1 hfound
  obtain ⟨source, hsource, heq, symbol, hsymbol, hname⟩ :=
    exists_left_of_forall₂ hnamed (List.mem_of_find?_eq_some hentry)
  have hkey : entry.1 = key := by simpa using List.find?_some hentry
  exact ⟨heq ▸ hsource, symbol, heq ▸ hsymbol, hname.trans hkey⟩

theorem answers_requiredMember (shape : String) (node : TypeNode) (key : String) :
    C.Answers p (catalog.requiredMember shape node key) fun property _ =>
      property ∈ node.properties ∧ ∃ symbol, catalog.graph.lookupSymbol property.symbol = .ok symbol ∧
        symbol.name = key := by
  rw [Catalog.requiredMember]
  refine (answers_shapeMember? node key).bind fun member q _ hmember => ?_
  split
  · exact .pure (hmember _ rfl)
  · exact .throw fun _ => nofun

theorem answers_literalMember (shape key : String) (property : Property) :
    C.Answers p (catalog.literalMember shape key property) fun _ _ => True := by
  rw [Catalog.literalMember]
  refine .type fun node _ => ?_
  split
  · exact .pure trivial
  · exact .throw fun _ => nofun

theorem answers_shapeMethod (shape : String) (property : Property) :
    C.Answers p (catalog.shapeMethod shape property) fun _ _ => True := by
  rw [Catalog.shapeMethod]
  refine (answers_literalMember _ _ _).bind fun text q _ _ => ?_
  split
  · exact .pure trivial
  · exact .throw fun _ => nofun

theorem answers_memberSchema (hroots : ∀ id, C.root id) (hguard : p.context.guard = [])
    (id : TypeId) :
    C.Answers p (catalog.memberSchema id) C.Good := by
  rw [Catalog.memberSchema]
  refine .type fun node _ => (answers_build (hroots id) hguard _).bind fun schema q _ hschema => ?_
  exact .context fun hq => (Answers.pure (good_resolve hq hschema)) hq

theorem answers_parameters (hroots : ∀ id, C.root id) (hguard : p.context.guard = [])
    (shape key : String) (location : ParameterLocation) (id : TypeId) :
    C.Answers p (catalog.parameters shape key location id) fun parameters q =>
      ∀ parameter ∈ parameters, C.Allows parameter.toJson q := by
  rw [Catalog.parameters]
  refine .type fun node _ => ?_
  split
  · exact .pure (List.forall_mem_nil _)
  · refine (answers_isPlainObject _).bind fun isPlain q hpq _ => ?_
    split
    · have hguard' : q.context.guard = [] := hpq.guard.trans hguard
      refine (answers_memberSchema hroots hguard' id).bind fun schema r _ hschema => ?_
      refine .context fun hr => (Answers.pure ?_) hr
      intro parameter hparameter
      obtain ⟨branch, hbranch, hmem⟩ := List.mem_flatMap.1 hparameter
      exact refersOnly_branchParameters (good_parameterBranches hr hschema branch hbranch)
        parameter hmem
    · exact .throw fun _ => nofun

theorem answers_requestBody (hroots : ∀ id, C.root id) (hguard : p.context.guard = [])
    (shape : String) {keywords : Dict Json}
    (hkeywords : ∀ q, EntriesOnly (fun t => C.target t q) keywords) (id : TypeId) :
    C.Answers p (catalog.requestBody shape keywords id) fun answer q =>
      ∀ body, answer = some body → C.Allows body.toJson q := by
  rw [Catalog.requestBody]
  refine .type fun node _ => ?_
  split
  · exact .pure fun _ h => nomatch h
  · refine (answers_isPlainObject _).bind fun isPlain q hpq _ => ?_
    split
    · have hguard' : q.context.guard = [] := hpq.guard.trans hguard
      refine (answers_build (hroots id) hguard' _).bind fun schema r _ hschema => .pure ?_
      intro body hbody
      cases hbody
      refine refersOnly_requestBody ((hkeywords r).erase _) fun entry hentry => ?_
      obtain rfl := List.mem_singleton.1 hentry
      exact hschema
    · exact .throw fun _ => nofun

/-- The keywords of a doc comment, as entries. -/
theorem entriesOnly_keywords {id : SymbolId} {annotations : Annotations}
    (h : catalog.Describes ⟨id, annotations⟩) (q : Progress) :
    EntriesOnly (fun t => C.target t q) annotations.definition :=
  Definition.refersOnly_iff.1 (good_owner (C := C) (p := q) h)

theorem answers_checkResponse (shape status : String) (node : TypeNode) :
    C.Answers p (catalog.checkResponse shape status node) fun _ _ => True := by
  rw [Catalog.checkResponse]
  split
  · exact .pure trivial
  · refine (answers_isPlainObject _).bind fun isPlain q _ _ => ?_
    split
    · exact .pure trivial
    · exact .throw fun _ => nofun

theorem answers_describeResponse (hroots : ∀ id, C.root id) (hguard : p.context.guard = [])
    (property : Property) (node : TypeNode) :
    C.Answers p (catalog.describeResponse property node) fun response q =>
      C.Allows response.toJson q := by
  rw [Catalog.describeResponse]
  refine .annotations fun annotations howner => ?_
  have hrest : ∀ q, EntriesOnly (fun t => C.target t q)
      (Dict.erase (Dict.erase annotations.definition "contentType") "description") :=
    fun q => ((entriesOnly_keywords howner q).erase _).erase _
  have hdescription : ∀ q, ((annotations.definition.get? "description").getD (.string "")).RefersOnly
      fun t => C.target t q := by
    intro q
    cases hget : annotations.definition.get? "description" with
    | none => exact refersOnly_string ""
    | some value => exact (good_owner (C := C) (p := q) howner).get? hget
  dsimp only
  split
  · exact .pure (refersOnly_response (hrest p) (hdescription p) fun _ h => nomatch h)
  · refine (answers_build (hroots _) hguard _).bind fun schema q _ hschema => .pure ?_
    refine refersOnly_response (hrest q) (hdescription q) fun content hcontent entry hentry => ?_
    cases hcontent
    obtain rfl := List.mem_singleton.1 hentry
    exact hschema

theorem answers_response (hroots : ∀ id, C.root id) (hguard : p.context.guard = [])
    (shape : String) (property : Property) :
    C.Answers p (catalog.response shape property) fun answer q => C.Allows answer.2.toJson q := by
  rw [Catalog.response]
  refine .symbol fun symbol _ => ?_
  dsimp only
  split
  · exact .throw_bind fun _ => nofun
  · refine .type fun node _ => (answers_checkResponse _ _ _).bind fun _ q hpq _ => ?_
    exact (answers_describeResponse hroots (hpq.guard.trans hguard) _ _).map fun _ _ h => h

theorem answers_responses (hroots : ∀ id, C.root id) (hguard : p.context.guard = [])
    (shape : String) (id : TypeId) :
    C.Answers p (catalog.responses shape id) fun responses q =>
      ∀ entry ∈ responses, C.Allows entry.2.toJson q := by
  rw [Catalog.responses]
  refine .type fun node _ => (answers_isPlainObject _).bind fun isPlain q hpq _ => ?_
  split
  · exact .throw_bind fun _ => nofun
  · refine (Answers.mapM (G := fun answer r => C.Allows answer.2.toJson r)
      _ ?_ fun property _ r hqr => ?_).map fun entries r hentries => ?_
    · exact fun entry r s hrs h => h.grows hrs.toGrows
    · exact answers_response hroots ((hqr.guard.trans hpq.guard).trans hguard) shape property
    · exact fun entry hentry => hentries entry (Dict.mem_of_mem_ofEntries hentry)

theorem answers_securityRequirements (hroots : ∀ id, C.root id) (hguard : p.context.guard = [])
    (shape : String) (id : TypeId) :
    C.Answers p (catalog.securityRequirements shape id) fun _ _ => True := by
  rw [Catalog.securityRequirements]
  refine (answers_memberSchema hroots hguard id).bind fun schema q _ _ => .context ?_
  split
  · exact .pure trivial
  · exact .throw fun _ => nofun

theorem answers_customEntry (property : Property) :
    C.Answers p (catalog.customEntry property) fun _ _ => True := by
  rw [Catalog.customEntry]
  refine .symbol fun symbol _ => ?_
  dsimp only
  split
  · exact .pure trivial
  · exact .type fun node _ => .pure trivial

/-- Custom entries may have any key: if they are asked for, all references have to be allowed. -/
theorem answers_customEntries (node : TypeNode)
    (hcustom : catalog.options.customOperationEntries = true → ∀ text q, C.target text q) :
    C.Answers p (catalog.customEntries node) fun entries q =>
      EntriesOnly (fun t => C.target t q) entries := by
  rw [Catalog.customEntries]
  split
  · rename_i hasked
    refine (Answers.mapM (G := fun _ _ => True) _ (fun _ _ _ _ h => h) fun property _ q _ =>
      answers_customEntry property).map fun entries q _ entry _ => ?_
    exact ⟨fun target _ => hcustom hasked target q, fun target _ => hcustom hasked target q⟩
  · exact .pure entriesOnly_nil

theorem answers_withMember {node : TypeNode} {key : String} {absent : α}
    {work : TypeId → BuildM α} {G : α → Progress → Prop} (habsent : ∀ q, G absent q)
    (hwork : ∀ id q, Settles p q → C.Answers q (work id) G) :
    C.Answers p (catalog.withMember node key absent work) G := by
  rw [Catalog.withMember]
  refine (answers_shapeMember? _ _).bind fun member q hpq _ => ?_
  split
  · exact hwork _ q hpq
  · exact .pure (habsent q)

theorem answers_shapeAnnotations (node : TypeNode) :
    C.Answers p (catalog.shapeAnnotations node) fun answer _ =>
      ∀ q, C.Good answer.1.definition q := by
  rw [Catalog.shapeAnnotations]
  split
  · exact .annotations fun annotations howner => .symbol fun symbol _ =>
      .pure fun q => good_owner howner
  · exact .pure fun q => good_empty

/-- The keywords of a shape go to the operation and to its body. -/
theorem entriesOnly_shapeKeywords {P : String → Prop} (h : definition.RefersOnly P) :
    EntriesOnly P (ShapeKeywords.ofDefinition definition).body ∧
      EntriesOnly P (ShapeKeywords.ofDefinition definition).others := by
  constructor
  · rw [ShapeKeywords.ofDefinition]
    dsimp only
    cases hget : definition.get? "body" with
    | none => exact entriesOnly_nil
    | some value =>
      cases value with
      | object fields => exact refersOnly_object.1 (h.get? hget)
      | _ => exact entriesOnly_nil
  · exact ((EntriesOnly.erase (Definition.refersOnly_iff.1 h) _).erase _).erase _

/-- **An operation refers to what the contract allows**, whatever shape it comes from. -/
theorem answers_operation (hroots : ∀ id, C.root id) (hguard : p.context.guard = [])
    (shape : String) (id : TypeId)
    (hcustom : catalog.options.customOperationEntries = true → ∀ text q, C.target text q) :
    C.Answers p (catalog.operation shape id) fun answer q =>
      ∀ placed, answer = some placed →
        C.Allows placed.operation.toJson q := by
  rw [Catalog.operation]
  refine .type fun node _ => (answers_shapeAnnotations _).bind fun answer q₁ h₁ hkeywords => ?_
  obtain ⟨annotations, symbolName⟩ := answer
  dsimp only
  split
  · exact .pure fun _ h => nomatch h
  have hbody := fun q => (entriesOnly_shapeKeywords (hkeywords q)).1
  have hothers := fun q => (entriesOnly_shapeKeywords (hkeywords q)).2
  refine (answers_requiredMember _ _ _).bind fun pathMember q₂ h₂ _ => ?_
  refine (answers_requiredMember _ _ _).bind fun methodMember q₃ h₃ _ => ?_
  refine (answers_requiredMember _ _ _).bind fun responsesMember q₄ h₄ _ => ?_
  refine (answers_literalMember _ _ _).bind fun path q₅ h₅ _ => ?_
  refine (answers_shapeMethod _ _).bind fun method q₆ h₆ _ => ?_
  have h₁₆ := h₁.trans (h₂.trans (h₃.trans (h₄.trans (h₅.trans h₆))))
  have hguard₆ : q₆.context.guard = [] := h₁₆.guard.trans hguard
  refine (answers_withMember (fun _ => List.forall_mem_nil _) fun id q hq =>
    answers_parameters hroots (hq.guard.trans hguard₆) _ _ _ id).bind fun inPath q₇ h₇ hinPath => ?_
  have hguard₇ := h₇.guard.trans hguard₆
  refine (answers_withMember (fun _ => List.forall_mem_nil _) fun id q hq =>
    answers_parameters hroots (hq.guard.trans hguard₇) _ _ _ id).bind fun inQuery q₈ h₈ hinQuery => ?_
  have hguard₈ := h₈.guard.trans hguard₇
  refine (answers_withMember (fun _ _ h => nomatch h) fun id q hq =>
    answers_requestBody hroots (hq.guard.trans hguard₈) _ hbody id).bind fun body q₉ h₉ hbodies => ?_
  have hguard₉ := h₉.guard.trans hguard₈
  refine (answers_responses hroots hguard₉ _ _).bind fun responses q₁₀ h₁₀ hresponses => ?_
  have hguard₁₀ := h₁₀.guard.trans hguard₉
  refine (answers_withMember (G := fun _ _ => True) (fun _ => trivial) fun id q hq =>
    (answers_securityRequirements hroots (hq.guard.trans hguard₁₀) _ id).map fun _ _ _ =>
      trivial).bind fun security q₁₁ h₁₁ _ => ?_
  refine (answers_customEntries _ hcustom).bind fun custom q₁₂ h₁₂ hentries => .pure ?_
  rintro placed hplaced
  cases hplaced
  have h₁₀₂ := h₁₁.trans h₁₂
  have h₉₂ := h₁₀.trans h₁₀₂
  have h₈₂ := h₉.trans h₉₂
  refine refersOnly_operation ((hothers q₁₂).extend hentries) ?_ ?_ ?_
  · intro parameter hparameter
    rcases List.mem_append.1 hparameter with hmem | hmem
    · exact (hinPath parameter hmem).grows (h₈.trans h₈₂).toGrows
    · exact (hinQuery parameter hmem).grows h₈₂.toGrows
  · exact fun body hbody => (hbodies body hbody).grows h₉₂.toGrows
  · exact fun entry hentry => (hresponses entry hentry).grows h₁₀₂.toGrows

end Contract

end TypeSchema
