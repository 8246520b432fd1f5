import TypeSchema.Proofs.Building.Assembly
import TypeSchema.Proofs.Building.Keywords

/-!
# Where schemas stand in one another

A schema has others in it: those of properties, the branches under `anyOf`, `oneOf` and `allOf`, those
of items and of the values of an index signature.  `Definition.Follows rule` says that whatever stands
anywhere in a schema is allowed by the rule for its place.  Every other keyword is harmless to that
(`Json.followsUnder_of_not_mem`), so what is to be shown of a composed schema comes down to the entries
that have schemas in them.
-/

set_option autoImplicit false

namespace TypeSchema

/-- Where a schema stands in another one. -/
inductive SchemaPlace
  | property (name : String)
  | branch (keyword : String)
  | item
  | value

/-- Whether the place is that of a property or of a branch. -/
def SchemaPlace.isMember : SchemaPlace → Bool
  | .property _ => true
  | .branch _ => true
  | .item => false
  | .value => false

/-- The keywords for branches. -/
def branchKeywords : List String :=
  ["anyOf", "oneOf", "allOf"]

/-- The keywords that have schemas under them. -/
def schemaKeywords : List String :=
  branchKeywords ++ ["properties", "items", "additionalProperties"]

/-- The value under a keyword has the schema in it, at the place. -/
inductive Json.Hosts (key : String) : Json → SchemaPlace → Definition → Prop
  | property {properties : Dict Json} {name : String} {schema : Definition}
      (hkey : key = "properties") (hmem : (name, .object schema) ∈ properties) :
      Hosts key (.object properties) (.property name) schema
  | branch {branches : List Json} {schema : Definition} (hkey : key ∈ branchKeywords)
      (hmem : .object schema ∈ branches) : Hosts key (.array branches) (.branch key) schema
  | items {schema : Definition} (hkey : key = "items") : Hosts key (.object schema) .item schema
  | item {items : List Json} {schema : Definition} (hkey : key = "items")
      (hmem : .object schema ∈ items) : Hosts key (.array items) .item schema
  | value {schema : Definition} (hkey : key = "additionalProperties") :
      Hosts key (.object schema) .value schema

theorem Json.Hosts.mem_schemaKeywords {key : String} {value : Json} {place : SchemaPlace}
    {schema : Definition} (h : Json.Hosts key value place schema) : key ∈ schemaKeywords := by
  cases h with
  | branch hkey _ => exact List.mem_append_left _ hkey
  | property hkey _ =>
    rw [hkey]
    decide
  | items hkey =>
    rw [hkey]
    decide
  | item hkey _ =>
    rw [hkey]
    decide
  | value hkey =>
    rw [hkey]
    decide

namespace Definition

/-- The schema has the other one in it, at the place. -/
def Hosts (definition : Definition) (place : SchemaPlace) (part : Definition) : Prop :=
  ∃ entry ∈ definition, Json.Hosts entry.1 entry.2 place part

/-- The second schema is the first one or stands somewhere in it. -/
inductive Within : Definition → Definition → Prop
  | here {definition : Definition} : Within definition definition
  | under {definition part inner : Definition} {place : SchemaPlace} (hpart : definition.Hosts place part)
      (h : Within part inner) : Within definition inner

theorem Hosts.refers {definition part : Definition} {place : SchemaPlace} {target : String}
    (h : definition.Hosts place part) (hpart : part.toJson.Refers target) :
    definition.toJson.Refers target := by
  obtain ⟨⟨key, value⟩, hmem, hhosts⟩ := h
  refine .field hmem ?_
  cases hhosts with
  | property _ hproperty => exact .field hproperty hpart
  | branch _ hbranch => exact .item hbranch hpart
  | items _ => exact hpart
  | item _ hitem => exact .item hitem hpart
  | value _ => exact hpart

/-- What a schema refers to is referred to wherever the schema stands. -/
theorem Within.refers {definition inner : Definition} {target : String}
    (h : definition.Within inner) (hinner : inner.toJson.Refers target) :
    definition.toJson.Refers target := by
  induction h with
  | here => exact hinner
  | under hpart _ ih => exact hpart.refers (ih hinner)

/-- Whatever stands in the schema is allowed where it stands. -/
def Follows (rule : SchemaPlace → Definition → Prop) (definition : Definition) : Prop :=
  ∀ inner, definition.Within inner → ∀ place part, inner.Hosts place part → rule place part

end Definition

/-- Whatever stands under the keyword is allowed there, and so is what stands in it. -/
def Json.FollowsUnder (rule : SchemaPlace → Definition → Prop) (key : String) (value : Json) : Prop :=
  ∀ place part, Json.Hosts key value place part → rule place part ∧ part.Follows rule

/-! ## Values -/

namespace Json

variable {rule : SchemaPlace → Definition → Prop} {key : String} {value : Json}

/-- A schema in a value is an object in it. -/
theorem Hosts.hasObject {place : SchemaPlace} {part : Definition} (h : Json.Hosts key value place part) :
    value.HasObject part := by
  cases h with
  | property _ hmem => exact .field hmem .here
  | branch _ hmem => exact .item hmem .here
  | items _ => exact .here
  | item _ hmem => exact .item hmem .here
  | value _ => exact .here

theorem IsFlat.followsUnder (h : value.IsFlat) : value.FollowsUnder rule key :=
  fun _ part hhosts => absurd hhosts.hasObject (h part)

theorem followsUnder_of_not_mem (h : key ∉ schemaKeywords) : value.FollowsUnder rule key :=
  fun _ _ hhosts => absurd hhosts.mem_schemaKeywords h

theorem followsUnder_branches {schemas : List Definition} (hkey : key ∈ branchKeywords)
    (h : ∀ schema ∈ schemas, rule (.branch key) schema ∧ schema.Follows rule) :
    (Json.array (schemas.map Definition.toJson)).FollowsUnder rule key := by
  rintro place part hhosts
  cases hhosts with
  | branch _ hmem =>
    obtain ⟨schema, hschema, heq⟩ := List.mem_map.1 hmem
    cases heq
    exact h _ hschema
  | item hitems hmem => exact absurd (hitems ▸ hkey) (by decide)

theorem followsUnder_items {items : List Definition}
    (h : ∀ item ∈ items, rule .item item ∧ item.Follows rule) :
    (Json.array (items.map Definition.toJson)).FollowsUnder rule "items" := by
  rintro place part hhosts
  cases hhosts with
  | branch hkey _ => exact absurd hkey (by decide)
  | item _ hmem =>
    obtain ⟨schema, hschema, heq⟩ := List.mem_map.1 hmem
    cases heq
    exact h _ hschema

theorem followsUnder_item {schema : Definition} (h : rule .item schema ∧ schema.Follows rule) :
    schema.toJson.FollowsUnder rule "items" := by
  rintro place part hhosts
  cases hhosts with
  | property hkey _ => exact absurd hkey (by decide)
  | items _ => exact h
  | value hkey => exact absurd hkey (by decide)

theorem followsUnder_value {schema : Definition} (h : rule .value schema ∧ schema.Follows rule) :
    schema.toJson.FollowsUnder rule "additionalProperties" := by
  rintro place part hhosts
  cases hhosts with
  | property hkey _ => exact absurd hkey (by decide)
  | items hkey => exact absurd hkey (by decide)
  | value _ => exact h

theorem followsUnder_properties {properties : Dict Json}
    (h : ∀ name schema, (name, .object schema) ∈ properties →
      rule (.property name) schema ∧ schema.Follows rule) :
    (Json.object properties).FollowsUnder rule "properties" := by
  rintro place part hhosts
  cases hhosts with
  | property _ hmem => exact h _ _ hmem
  | items hkey => exact absurd hkey (by decide)
  | value hkey => exact absurd hkey (by decide)

end Json

/-! ## Definitions -/

namespace Definition

variable {rule : SchemaPlace → Definition → Prop} {definition other : Definition} {key : String}
  {value : Json}

/-- A schema follows the rule if its entries do. -/
theorem follows_iff :
    definition.Follows rule ↔ ∀ entry ∈ definition, entry.2.FollowsUnder rule entry.1 := by
  constructor
  · intro h entry hmem place part hhosts
    have hpart : definition.Hosts place part := ⟨entry, hmem, hhosts⟩
    exact ⟨h definition .here place part hpart, fun inner hin => h inner (.under hpart hin)⟩
  · intro h inner hin place part hhosts
    cases hin with
    | here =>
      obtain ⟨entry, hmem, hentry⟩ := hhosts
      exact (h entry hmem place part hentry).1
    | under hfirst hrest =>
      obtain ⟨entry, hmem, hentry⟩ := hfirst
      exact (h entry hmem _ _ hentry).2 inner hrest place part hhosts

/-- A schema without keywords for schemas has nothing in it. -/
theorem follows_of_keys (h : ∀ entry ∈ definition, entry.1 ∉ schemaKeywords) :
    definition.Follows rule :=
  follows_iff.2 fun entry hmem => Json.followsUnder_of_not_mem (h entry hmem)

namespace Follows

theorem insert (h : definition.Follows rule) (hvalue : value.FollowsUnder rule key) :
    (definition.insert key value).Follows rule :=
  follows_iff.2 (Dict.forall_mem_insert (follows_iff.1 h) hvalue)

/-- A keyword that has no schemas under it. -/
theorem insert_other (h : definition.Follows rule) (hkey : key ∉ schemaKeywords) :
    (definition.insert key value).Follows rule :=
  h.insert (Json.followsUnder_of_not_mem hkey)

theorem merge (h : definition.Follows rule) (hother : other.Follows rule) :
    (definition.merge other).Follows rule :=
  follows_iff.2 (Dict.forall_mem_extend (follows_iff.1 h) (follows_iff.1 hother))

theorem refAnnotations (h : definition.Follows rule) : definition.refAnnotations.Follows rule :=
  follows_iff.2 fun entry hmem => follows_iff.1 h entry (List.mem_filter.1 hmem).1

/-- What is allowed everywhere holds of whatever stands in the schema. -/
theorem of_within {P : Definition → Prop} {inner : Definition}
    (h : definition.Follows fun _ => P) (hself : P definition) (hwithin : definition.Within inner) :
    P inner := by
  induction hwithin with
  | here => exact hself
  | under hpart _ ih =>
    exact ih (fun inner hin => h inner (.under hpart hin)) (h _ .here _ _ hpart)

theorem isKept : IsKept (Follows rule) where
  empty := follows_of_keys (List.forall_mem_nil _)
  insert h hentry := h.insert hentry.flat.followsUnder

end Follows

end Definition

/-! ## What rules put in which place -/

namespace Catalog

open Definition

variable {catalog : Catalog} {rule : SchemaPlace → Definition → Prop}
  {Part : Request → Definition → Prop} {keyword : UnionKeyword} {owner : Option Owner}
  {subject : Subject} {isRaw : Bool} {start definition : Definition}

/-- What is built for the parts of a type is allowed wherever a rule puts it, and so is whatever stands
in it.  The values of an index signature are asked for by the owner of the type itself. -/
structure Allows (catalog : Catalog) (rule : SchemaPlace → Definition → Prop)
    (Part : Request → Definition → Prop) (owner : Option Owner) : Prop where
  answer : ∀ part answer, Part part answer → (∀ o, part.owner = some o → catalog.Describes o) →
    answer.Follows rule
  item : ∀ id answer, Part (catalog.member id) answer → rule .item answer
  value : ∀ part answer, Part part answer → part.owner = owner → rule .value answer
  property : ∀ property kept, catalog.Keeping Part property (some kept) →
    rule (.property kept.name) kept.schema
  branch : ∀ (keyword : UnionKeyword) members contributions,
    List.Forall₂ (catalog.Contributes Part) members contributions →
    ∀ schema ∈
      (contributions.foldl (Branches.enter catalog.options.usesNullableKeyword) {}).all,
      rule (.branch keyword.name) schema
  factor : ∀ members schemas,
    List.Forall₂ (fun id schema => Part (catalog.member id) schema) members schemas →
    ∀ schema ∈ (schemas.foldl Factors.enter {}).all, rule (.branch "allOf") schema
  subtype : ∀ printed names schemas, Dict.get? catalog.subtypes printed = some names →
    List.Forall₂ (fun id schema => Part (catalog.member id) schema)
      (names.filterMap (Dict.get? catalog.declared)) schemas →
    ∀ schema ∈ schemas, rule (.branch "oneOf") schema

namespace Allows

variable (hallows : catalog.Allows rule Part owner)

include hallows

theorem follows_of_answersPart {answer : Definition} (h : catalog.AnswersPart Part answer) :
    answer.Follows rule := by
  obtain ⟨part, hanswer, howner⟩ := h
  exact hallows.answer part answer hanswer howner

theorem member_follows {schema : Definition} (h : catalog.RuleMember Part subject schema) :
    schema.Follows rule :=
  h.keeps Follows.isKept fun _ hanswer _ => hallows.follows_of_answersPart hanswer

theorem keeping_follows {property : Property} {kept : KeptProperty}
    (h : catalog.Keeping Part property (some kept)) : kept.schema.Follows rule := by
  obtain ⟨answer, hanswer, _, heq⟩ := h.answersPart
  rw [heq]
  exact propertyDefinition_keeps (hallows.follows_of_answersPart hanswer)
    (fun _ => (hallows.follows_of_answersPart hanswer).insert_other (by decide))
    fun _ _ h _ => h.insert_other (by decide)

end Allows

/-- **Rules put schemas** where they are allowed. -/
theorem Composed.follows (hallows : catalog.Allows rule Part owner)
    (howner : ∀ o, owner = some o → catalog.Describes o) (hstart : start.Follows rule)
    (h : catalog.Composed Part keyword owner subject isRaw start definition) :
    definition.Follows rule := by
  refine h.extends.keeps hstart (fun _ key value h hentry => h.insert ?_)
    fun _ _ h hother => h.merge (hallows.member_follows hother)
  cases hentry with
  | own hentry => exact hentry.flat.followsUnder
  | marker _ => exact (Json.isFlat_string _).followsUnder
  | branches hkind h =>
    refine Json.followsUnder_branches ?_ fun schema hmem => ⟨hallows.branch _ _ _ h schema hmem,
      hallows.member_follows (.branch hkind h hmem)⟩
    cases keyword <;> decide
  | factors hkind h =>
    exact Json.followsUnder_branches (by decide) fun schema hmem =>
      ⟨hallows.factor _ _ h schema hmem, hallows.member_follows (.factor hkind h hmem)⟩
  | subtypes hnames h =>
    exact Json.followsUnder_branches (by decide) fun schema hmem =>
      ⟨hallows.subtype _ _ _ hnames h schema hmem,
        hallows.follows_of_answersPart (answersPart_of_forall₂ h schema hmem)⟩
  | items h =>
    refine Json.followsUnder_items fun item hmem => ?_
    obtain ⟨id, _, hanswer⟩ := exists_left_of_forall₂ h hmem
    exact ⟨hallows.item id item hanswer, hallows.answer _ _ hanswer nofun⟩
  | item h => exact Json.followsUnder_item ⟨hallows.item _ _ h, hallows.answer _ _ h nofun⟩
  | properties h =>
    refine Json.followsUnder_properties fun name schema hmem => ?_
    obtain ⟨kept, hkept, heq⟩ := List.mem_map.1 (Dict.mem_of_mem_ofEntries hmem)
    cases heq
    obtain ⟨property, hkeeping⟩ := keeping_of_forall₂ h hkept
    exact ⟨hallows.property property kept hkeeping, hallows.keeping_follows hkeeping⟩
  | value h =>
    exact Json.followsUnder_value ⟨hallows.value _ _ h rfl, hallows.answer _ _ h howner⟩

/-- What has the keys of a reference and of what stands beside it has nothing in it. -/
theorem follows_reference_merge {path : String} {other : Definition} (h : other.Follows rule) :
    ((reference path).merge other).Follows rule := by
  refine Follows.merge (follows_of_keys fun entry hmem => ?_) h
  rw [congrArg Prod.fst (List.mem_singleton.1 hmem)]
  show "$ref" ∉ schemaKeywords
  decide

end Catalog

end TypeSchema
