import TypeSchema.Proofs.Building.Derivations
import TypeSchema.Proofs.Entering

/-!
# What composed schemas are put together from

Whichever rule composes a schema, it extends the schema that annotations give, by entries and by the
schemas of members that are merged into it.  `Catalog.RuleEntry` lists the entries that rules make:
those that they make of their own, the marker of `undefined`, and the schemas for the parts of the type,
each under its keyword.  So what is kept by these is kept by all rules (`Catalog.Composed.extends`).
-/

set_option autoImplicit false

namespace TypeSchema

open Definition

/-- Whether the kind is that of `undefined` or `void`. -/
def TypeKind.isUndefined : TypeKind → Bool
  | .undefined => true
  | .void => true
  | _ => false

/-- Whether the schemas of members may be entered into that of the type. -/
def TypeKind.hasMembers : TypeKind → Bool
  | .union _ => true
  | .intersection _ => true
  | _ => false

/-! ## What members leave -/

/-- The schemas under which a union is listed: those that members contribute, that of the values, and `null`
as the options have it written. -/
theorem Branches.mem_all_foldl {nullable : Bool} {contributions : List Contribution} {schema : Definition}
    (h : schema ∈ (contributions.foldl (Branches.enter nullable) {}).all) :
    (.schema schema ∈ contributions ∧ schema.typeName? ≠ some "undefined") ∨
      (∃ null, .schema null ∈ contributions ∧ nullable = true ∧ null.typeName? = some "null" ∧
        schema = null.makeNullable) ∨
      ∃ values, schema = valuesSchema values := by
  rcases mem_all h with hmem | hvalues
  · rcases mem_schemas_foldl hmem with hnone | hcontributed | hnull
    · cases hnone
    · exact .inl hcontributed
    · exact .inr (.inl hnull)
  · exact .inr (.inr ⟨_, hvalues⟩)

/-- The schemas under which an intersection is listed: those of members, and that of the type names. -/
theorem Factors.mem_all_foldl {schemas : List Definition} {schema : Definition}
    (h : schema ∈ (schemas.foldl Factors.enter {}).all) :
    (schema ∈ schemas ∧ schema.typeName? ≠ some "undefined") ∨
      schema = Definition.empty.insert "type" (typesJson (schemas.foldl Factors.enter {}).types) :=
  (mem_all h).imp_left fun hmem => (mem_schemas_foldl hmem).resolve_left List.not_mem_nil

theorem Factors.undefined_not_mem_types (schemas : List Definition) :
    "undefined" ∉ (schemas.foldl Factors.enter {}).types := fun hmem =>
  (mem_types_foldl hmem).elim List.not_mem_nil fun h => h.2 rfl

namespace Catalog

variable {catalog : Catalog} {Part : Request → Definition → Prop} {keyword : UnionKeyword}
  {owner : Option Owner} {subject : Subject} {isRaw : Bool} {start definition : Definition}

/-! ## Answers for parts -/

/-- The schema is an answer for a part, and the owner of the part, if it has one, has its annotations. -/
def AnswersPart (catalog : Catalog) (Part : Request → Definition → Prop) (answer : Definition) : Prop :=
  ∃ part, Part part answer ∧ ∀ o, part.owner = some o → catalog.Describes o

theorem answersPart_member {id : TypeId} {answer : Definition}
    (h : Part (catalog.member id) answer) : catalog.AnswersPart Part answer :=
  ⟨_, h, nofun⟩

theorem answersPart_of_forall₂ {types : List TypeId} {schemas : List Definition}
    (h : List.Forall₂ (fun id schema => Part (catalog.member id) schema) types schemas) :
    ∀ schema ∈ schemas, catalog.AnswersPart Part schema := by
  intro schema hmem
  obtain ⟨id, _, hanswer⟩ := exists_left_of_forall₂ h hmem
  exact answersPart_member hanswer

theorem answersPart_of_contributes {members : List TypeId} {contributions : List Contribution}
    (h : List.Forall₂ (catalog.Contributes Part) members contributions) {schema : Definition}
    (hmem : .schema schema ∈ contributions) : catalog.AnswersPart Part schema := by
  obtain ⟨id, _, hcontributes⟩ := exists_left_of_forall₂ h hmem
  cases hcontributes with
  | schema _ _ howner hanswer => exact ⟨_, hanswer, howner.2⟩

/-- A property is kept with the answer for its type, a title and a default value. -/
theorem Keeping.answersPart {property : Property} {kept : KeptProperty}
    (h : catalog.Keeping Part property (some kept)) :
    ∃ answer, catalog.AnswersPart Part answer ∧ answer.typeName? ≠ some "undefined" ∧
      kept.schema = catalog.propertyDefinition property kept.name answer := by
  cases h with
  | kept _ howner _ _ hanswer hdefined =>
    exact ⟨_, ⟨_, hanswer, fun o heq => Option.some.inj heq ▸ howner⟩, hdefined, rfl⟩

theorem keeping_of_forall₂ {properties : List Property} {answers : List (Option KeptProperty)}
    (h : List.Forall₂ (catalog.Keeping Part) properties answers) {kept : KeptProperty}
    (hmem : kept ∈ answers.reduceOption) : ∃ property, catalog.Keeping Part property (some kept) := by
  obtain ⟨property, _, hkeeping⟩ := exists_left_of_forall₂ h (List.reduceOption_mem_iff.1 hmem)
  exact ⟨property, hkeeping⟩

/-- What a property adds to its schema is a title and a default value. -/
theorem propertyDefinition_keeps {P : Definition → Prop} {property : Property} {name : String}
    (hschema : P definition)
    (htitle : catalog.options.titles = true → P (definition.insert "title" (.string name)))
    (hdefault : ∀ (titled : Definition) (value : Json), P titled → value.IsFlat →
      P (titled.insert "default" value)) :
    P (catalog.propertyDefinition property name definition) := by
  have htitled : P (if catalog.options.titles then definition.insert "title" (.string name)
      else definition) := by
    split
    · rename_i htitles
      exact htitle htitles
    · exact hschema
  unfold propertyDefinition
  dsimp only
  split
  · exact htitled
  · rw [Definition.setDefault]
    split
    · exact hdefault _ _ htitled (Literal.isFlat_readInitializer ‹_›)
    · exact hdefault _ _ htitled (Literal.isFlat_readInitializer ‹_›)
    · exact htitled

section Members

variable {P : Definition → Prop} (hP : IsKept P)
  (hpart : ∀ answer, catalog.AnswersPart Part answer → answer.typeName? ≠ some "undefined" → P answer)

include hP hpart

/-- What holds of answers holds of the schemas that a union lists. -/
theorem branches_keep {members : List TypeId} {contributions : List Contribution} {nullable : Bool}
    (h : List.Forall₂ (catalog.Contributes Part) members contributions) :
    ∀ schema ∈ (contributions.foldl (Branches.enter nullable) {}).all, P schema := by
  intro schema hmem
  rcases Branches.mem_all_foldl hmem with ⟨hmember, hname⟩ | ⟨null, hnull, _, hname, rfl⟩ | ⟨values, rfl⟩
  · exact hpart _ (answersPart_of_contributes h hmember) hname
  · exact hP.extends (Extends.start.makeNullable fun _ _ => id)
      (hpart _ (answersPart_of_contributes h hnull) (by simp [hname]))
  · exact hP.extends (Branches.extends_valuesSchema values) hP.empty

/-- So it does of those that an intersection lists. -/
theorem factors_keep {members : List TypeId} {schemas : List Definition}
    (h : List.Forall₂ (fun id schema => Part (catalog.member id) schema) members schemas) :
    ∀ schema ∈ (schemas.foldl Factors.enter {}).all, P schema := by
  intro schema hmem
  rcases Factors.mem_all_foldl hmem with ⟨hmember, hname⟩ | rfl
  · exact hpart _ (answersPart_of_forall₂ h schema hmember) hname
  · exact hP.insert hP.empty (Factors.isOwnEntry_typesJson (Factors.undefined_not_mem_types _))

end Members

/-! ## Rules -/

section Rules

variable (catalog : Catalog) (Part : Request → Definition → Prop) (keyword : UnionKeyword)
  (owner : Option Owner) (subject : Subject)

/-- The rule for the subject may make the entry. -/
inductive RuleEntry : String → Json → Prop
  | own {key : String} {value : Json} (h : IsOwnEntry key value) : RuleEntry key value
  /-- The marker of `undefined`. -/
  | marker (hkind : subject.node.kind.isUndefined = true) :
      RuleEntry "type" (.string "undefined")
  | branches {members : List TypeId} {contributions : List Contribution}
      (hkind : subject.node.kind = .union members)
      (h : List.Forall₂ (catalog.Contributes Part) members contributions) :
      RuleEntry keyword.name (.array
        ((contributions.foldl (Branches.enter catalog.options.usesNullableKeyword) {}).all.map toJson))
  | factors {members : List TypeId} {schemas : List Definition}
      (hkind : subject.node.kind = .intersection members)
      (h : List.Forall₂ (fun id schema => Part (catalog.member id) schema) members schemas) :
      RuleEntry "allOf" (.array ((schemas.foldl Factors.enter {}).all.map toJson))
  | subtypes {printed : String} {names : List String} {schemas : List Definition}
      (hnames : Dict.get? catalog.subtypes printed = some names)
      (h : List.Forall₂ (fun id schema => Part (catalog.member id) schema)
        (names.filterMap (Dict.get? catalog.declared)) schemas) :
      RuleEntry "oneOf" (.array (schemas.map toJson))
  | items {elements : List TypeId} {items : List Definition}
      (h : List.Forall₂ (fun id item => Part (catalog.member id) item) elements items) :
      RuleEntry "items" (.array (items.map toJson))
  | item {element : TypeId} {item : Definition} (h : Part (catalog.member element) item) :
      RuleEntry "items" item.toJson
  | properties {properties : List Property} {answers : List (Option KeptProperty)}
      (h : List.Forall₂ (catalog.Keeping Part) properties answers) :
      RuleEntry "properties" (.object
        (Dict.ofEntries (answers.reduceOption.map fun p => (p.name, p.schema.toJson))))
  | value {value : TypeId} {named : Option SymbolId} {schema : Definition}
      (h : Part { catalog.member value named with unionKeyword := keyword, owner := owner } schema) :
      RuleEntry "additionalProperties" schema.toJson

/-- The rule for the subject may merge the schema: it is one of those that members of a union or of an
intersection leave. -/
inductive RuleMember (schema : Definition) : Prop
  | branch {members : List TypeId} {contributions : List Contribution}
      (hkind : subject.node.kind = .union members)
      (h : List.Forall₂ (catalog.Contributes Part) members contributions)
      (hmem : schema ∈
        (contributions.foldl (Branches.enter catalog.options.usesNullableKeyword) {}).all)
  | factor {members : List TypeId} {schemas : List Definition}
      (hkind : subject.node.kind = .intersection members)
      (h : List.Forall₂ (fun id schema => Part (catalog.member id) schema) members schemas)
      (hmem : schema ∈ (schemas.foldl Factors.enter {}).all)

end Rules

theorem RuleMember.hasMembers {schema : Definition} (h : catalog.RuleMember Part subject schema) :
    subject.node.kind.hasMembers = true := by
  cases h with
  | branch hkind _ _ => rw [hkind, TypeKind.hasMembers]
  | factor hkind _ _ => rw [hkind, TypeKind.hasMembers]

/-- What holds of answers for parts holds of the schemas that the rule may merge. -/
theorem RuleMember.keeps {P : Definition → Prop} {schema : Definition}
    (h : catalog.RuleMember Part subject schema) (hP : IsKept P)
    (hpart : ∀ answer, catalog.AnswersPart Part answer → answer.typeName? ≠ some "undefined" → P answer) :
    P schema := by
  cases h with
  | branch _ h hmem => exact branches_keep hP hpart h schema hmem
  | factor _ h hmem => exact factors_keep hP hpart h schema hmem

theorem KeywordName.isUndefined {kind : TypeKind} {name : String} (h : catalog.KeywordName kind name)
    (hname : name = "undefined") : kind.isUndefined = true := by
  cases h with
  | undefined => rfl
  | void => rfl
  | _ => exact absurd hname (by decide)

/-- **Rules extend** the schema that annotations give by the entries for the type. -/
theorem Composed.extends (h : catalog.Composed Part keyword owner subject isRaw start definition) :
    Extends (catalog.RuleEntry Part keyword owner subject) (catalog.RuleMember Part subject) start
      definition := by
  have hown : ∀ key value, IsOwnEntry key value →
      catalog.RuleEntry Part keyword owner subject key value := fun _ _ => .own
  have hobject : Extends (catalog.RuleEntry Part keyword owner subject)
      (catalog.RuleMember Part subject) start
      ((start.setType "object").insert "properties" (.object [])) :=
    (Extends.start.setType hown (by decide)).insert (.properties .nil)
  cases h with
  | union hkind hmembers =>
    exact Extends.start.unite (fun _ hmem => .branch hkind hmembers hmem) (.branches hkind hmembers) _
  | intersection hkind hmembers =>
    exact Extends.start.intersect (fun _ hmem => .factor hkind hmembers hmem) (.factors hkind hmembers)
  | tuple _ helements => exact Extends.start.setTuple hown (.items helements) _ _
  | @keyword name hname =>
    by_cases hundefined : name = "undefined"
    · rw [hundefined]
      exact Extends.start.insert (.marker (hname.isUndefined hundefined))
    · exact Extends.start.setType hown hundefined
  | nullable _ _ =>
    exact (Extends.start.setType hown (by decide)).insertOwn hown (by decide) (by decide)
      (Json.isFlat_bool true)
  | anything _ => exact .start
  | anyObject _ => exact hobject.insertOwn hown (by decide) (by decide) (Json.isFlat_bool true)
  | date _ _ _ _ =>
    exact (Extends.start.setType hown (by decide)).insertNew
      (hown _ _ (isOwnEntry_of_ne (by decide) (by decide) (Json.isFlat_string _)))
  | literal _ => exact Extends.start.setLiteral hown _
  | listed _ _ _ => exact Extends.start.setType hown (by decide)
  | array _ _ hanswer => exact (Extends.start.setType hown (by decide)).insert (.item hanswer)
  | enum _ => exact Extends.start.define hown _
  | emptyObject _ _ => exact hobject
  | dictionary _ _ hanswer => exact hobject.insert (.value hanswer)
  | subtypes _ _ _ _ _ _ hnames hschemas => exact Extends.start.insert (.subtypes hnames hschemas)
  | object _ _ hproperties =>
    have hlisted : Extends _ (catalog.RuleMember Part subject) start _ :=
      Extends.start.setProperties hown (.properties hproperties)
    unfold listProperties
    dsimp only
    split
    · exact hlisted
    · exact hlisted.setRequired hown _

/-! ## What composed schemas refer to -/

section References

variable {P : String → Prop}

theorem isKept_refersOnly : IsKept fun definition => definition.RefersOnly P where
  empty := refersOnly_empty
  insert h hentry := h.insert (.of_ne hentry.ne_ref hentry.flat.refersOnly)

theorem Keeping.refersOnly {property : Property} {kept : KeptProperty}
    (h : catalog.Keeping Part property (some kept))
    (hpart : ∀ answer, catalog.AnswersPart Part answer → answer.RefersOnly P) :
    kept.schema.RefersOnly P := by
  obtain ⟨answer, hanswer, _, heq⟩ := h.answersPart
  rw [heq]
  refine propertyDefinition_keeps (P := fun definition => definition.RefersOnly P)
    (hpart answer hanswer) (fun _ => ?_) fun _ _ h hflat => ?_
  · exact (hpart answer hanswer).insert (.of_ne (by decide) (Json.refersOnly_string _))
  · exact h.insert (.of_ne (by decide) hflat.refersOnly)

/-- A property is no reference, whatever its name: its schema is an object. -/
theorem refersOnly_properties {kept : List KeptProperty} (h : ∀ p ∈ kept, p.schema.RefersOnly P) :
    (Json.object (Dict.ofEntries (kept.map fun p => (p.name, p.schema.toJson)))).RefersOnly P := by
  refine Json.refersOnly_object.2 fun entry hentry => ?_
  obtain ⟨p, hp, rfl⟩ := List.mem_map.1 (Dict.mem_of_mem_ofEntries hentry)
  refine ⟨fun target heq => ?_, h p hp⟩
  cases congrArg Prod.snd heq

/-- **Rules make no references**: a composed schema refers to what annotations and the answers for parts
refer to. -/
theorem Composed.refersOnly (h : catalog.Composed Part keyword owner subject isRaw start definition)
    (hpart : ∀ part answer, Part part answer → answer.RefersOnly P) (hstart : start.RefersOnly P) :
    definition.RefersOnly P := by
  have hanswers : ∀ answer, catalog.AnswersPart Part answer → answer.RefersOnly P :=
    fun answer ⟨part, hanswer, _⟩ => hpart part answer hanswer
  have hmember : ∀ schema, catalog.RuleMember Part subject schema → schema.RefersOnly P :=
    fun schema h => h.keeps isKept_refersOnly fun answer hanswer _ => hanswers answer hanswer
  refine h.extends.keeps hstart (fun _ key value h hentry => h.insert ?_)
    fun _ _ h hother => h.merge (hmember _ hother)
  cases hentry with
  | own hentry => exact .of_ne hentry.ne_ref hentry.flat.refersOnly
  | marker _ => exact .of_ne (by decide) (Json.refersOnly_string _)
  | branches hkind h =>
    refine .of_ne ?_ (refersOnly_array fun schema hmem => hmember schema (.branch hkind h hmem))
    cases keyword <;> decide
  | factors hkind h =>
    exact .of_ne (by decide) (refersOnly_array fun schema hmem =>
      hmember schema (.factor hkind h hmem))
  | subtypes _ h =>
    exact .of_ne (by decide) (refersOnly_array fun schema hmem =>
      hanswers schema (answersPart_of_forall₂ h schema hmem))
  | items h =>
    exact .of_ne (by decide) (refersOnly_array fun item hmem =>
      hanswers item (answersPart_of_forall₂ h item hmem))
  | item h => exact .of_ne (by decide) (hpart _ _ h)
  | properties h =>
    refine .of_ne (by decide) (refersOnly_properties fun kept hmem => ?_)
    obtain ⟨property, hkeeping⟩ := keeping_of_forall₂ h hmem
    exact hkeeping.refersOnly hanswers
  | value h => exact .of_ne (by decide) (hpart _ _ h)

end References

end Catalog

end TypeSchema
