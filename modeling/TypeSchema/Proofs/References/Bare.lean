import TypeSchema.Proofs.Building.Assembly
import TypeSchema.Proofs.Building.Keywords

/-!
# Objects that are references

An object with a text under `$ref` is a reference, and a reader takes no notice of what else it has.
`Json.Bare P` says of a value that no reference in it, at any depth, has another key than `$ref` and
those that satisfy `P`.

A schema that is no reference may be given any keyword but `$ref`, and stays none (`Plain`).  The rules
make references of other schemas in one way only: where a single schema results from the members of a
union or an intersection, its keywords are entered into those that annotations gave
(`Plain.merge_bare`).
-/

set_option autoImplicit false

namespace TypeSchema

/-- The object has a text under `$ref`. -/
def Definition.IsReference (definition : Definition) : Prop :=
  ∃ target, ("$ref", .string target) ∈ definition

/-! ## Values -/

namespace Json

theorem HasObject.refers {value : Json} {fields : Dict Json} {target : String}
    (h : value.HasObject fields) (hmem : ("$ref", .string target) ∈ fields) :
    value.Refers target := by
  induction h with
  | here => exact .here hmem
  | field hfield _ ih => exact .field hfield (ih hmem)
  | item hitem _ ih => exact .item hitem (ih hmem)

/-- No reference in the value has another key than `$ref` and those that satisfy `P`. -/
def Bare (P : String → Prop) (value : Json) : Prop :=
  ∀ fields, value.HasObject fields → Definition.IsReference fields →
    ∀ entry ∈ fields, entry.1 = "$ref" ∨ P entry.1

variable {P : String → Prop} {value : Json}

theorem Bare.of_refersOnly (h : value.RefersOnly fun _ => False) : value.Bare P :=
  fun _ hobject ⟨target, hmem⟩ => (h target (hobject.refers hmem)).elim

theorem IsFlat.bare (h : value.IsFlat) : value.Bare P :=
  fun fields hobject => absurd hobject (h fields)

theorem bare_array {items : List Json} :
    (Json.array items).Bare P ↔ ∀ value ∈ items, value.Bare P :=
  forall_hasObject_array

theorem bare_object {fields : Dict Json} :
    (Json.object fields).Bare P ↔
      (Definition.IsReference fields → ∀ entry ∈ fields, entry.1 = "$ref" ∨ P entry.1) ∧
        ∀ entry ∈ fields, entry.2.Bare P :=
  forall_hasObject_object

end Json

/-! ## Definitions -/

namespace Definition

variable {P : String → Prop} {definition other : Definition} {key : String} {value : Json}

/-- No reference in the schema has another key than `$ref` and those that satisfy `P`. -/
def Bare (P : String → Prop) (definition : Definition) : Prop :=
  definition.toJson.Bare P

/-- The schema is no reference, and those in it have no other key than `$ref` and those that satisfy
`P`. -/
structure Plain (P : String → Prop) (definition : Definition) : Prop where
  not_isReference : ¬definition.IsReference
  values : ∀ entry ∈ definition, entry.2.Bare P

theorem isReference_of_refTarget? {target : String} (h : definition.refTarget? = some target) :
    definition.IsReference :=
  ⟨target, Dict.mem_of_get? (get?_of_refTarget? h)⟩

theorem bare_iff : definition.Bare P ↔
    (definition.IsReference → ∀ entry ∈ definition, entry.1 = "$ref" ∨ P entry.1) ∧
      ∀ entry ∈ definition, entry.2.Bare P :=
  Json.bare_object

theorem Bare.values (h : definition.Bare P) : ∀ entry ∈ definition, entry.2.Bare P :=
  (bare_iff.1 h).2

theorem Bare.onlyKeys (h : definition.Bare P) (hreference : definition.IsReference) :
    definition.OnlyKeys fun key => key = "$ref" ∨ P key :=
  (bare_iff.1 h).1 hreference

/-- What has a type is no reference, if no reference may have one. -/
theorem Bare.plain (h : definition.Bare P) (htype : ¬P "type")
    (hcontains : definition.contains "type" = true) : definition.Plain P := by
  refine ⟨fun hreference => ?_, h.values⟩
  have hnone := (h.onlyKeys hreference).not_contains
    (fun hkey => hkey.elim (fun heq => absurd heq (by decide)) htype)
  rw [hnone] at hcontains
  cases hcontains

theorem contains_of_typeName? {name : String} (h : definition.typeName? = some name) :
    definition.contains "type" = true :=
  Dict.contains_of_get? (get?_of_typeName? h)

theorem plain_iff : definition.Plain P ↔
    ∀ entry ∈ definition, (∀ target, entry ≠ ("$ref", .string target)) ∧ entry.2.Bare P := by
  constructor
  · exact fun h entry hmem =>
      ⟨fun target heq => h.not_isReference ⟨target, heq ▸ hmem⟩, h.values entry hmem⟩
  · exact fun h => ⟨fun ⟨target, hmem⟩ => (h _ hmem).1 target rfl, fun entry hmem => (h entry hmem).2⟩

namespace Plain

theorem bare (h : definition.Plain P) : definition.Bare P :=
  bare_iff.2 ⟨fun hreference => absurd hreference h.not_isReference, h.values⟩

theorem of_refersOnly (h : definition.RefersOnly fun _ => False) : definition.Plain P where
  not_isReference := fun ⟨target, hmem⟩ => h target (.here hmem)
  values entry hmem := .of_refersOnly (refersOnly_iff.1 h entry hmem).2

theorem insert (h : definition.Plain P) (hkey : key ≠ "$ref") (hvalue : value.Bare P) :
    (definition.insert key value).Plain P :=
  plain_iff.2 (Dict.forall_mem_insert (plain_iff.1 h)
    ⟨fun _ heq => hkey (congrArg Prod.fst heq), hvalue⟩)

theorem merge (h : definition.Plain P) (hother : other.Plain P) : (definition.merge other).Plain P :=
  plain_iff.2 (Dict.forall_mem_extend (plain_iff.1 h) (plain_iff.1 hother))

theorem isKept : IsKept fun definition => definition.Plain P where
  empty := of_refersOnly refersOnly_empty
  insert h hentry := h.insert hentry.ne_ref hentry.flat.bare

end Plain

/-- What has no other keys than a reference may have is bare, if its values are. -/
theorem OnlyKeys.bare (hkeys : definition.OnlyKeys fun key => key = "$ref" ∨ P key)
    (hvalues : ∀ entry ∈ definition, entry.2.Bare P) : definition.Bare P :=
  bare_iff.2 ⟨fun _ => hkeys, hvalues⟩

/-- A schema whose keywords may stand beside a reference becomes one. -/
theorem Plain.merge_bare (h : definition.Plain P) (hkeys : definition.OnlyKeys P)
    (hother : other.Bare P) : (definition.merge other).Bare P := by
  by_cases hreference : other.IsReference
  · exact ((hkeys.mono fun _ => .inr).merge (hother.onlyKeys hreference)).bare
      (Dict.forall_mem_extend h.values hother.values)
  · exact (h.merge ⟨hreference, hother.values⟩).bare

/-- Keywords that may stand beside a reference are entered into it. -/
theorem bare_reference_merge {path : String} (hkeys : other.OnlyKeys P)
    (hvalues : ∀ entry ∈ other, entry.2.Bare P) : ((reference path).merge other).Bare P := by
  have hreference : (reference path).OnlyKeys fun key => key = "$ref" ∨ P key := by
    intro entry hmem
    exact .inl (congrArg Prod.fst (List.mem_singleton.1 hmem))
  refine (hreference.merge (hkeys.mono fun _ => .inr)).bare (Dict.forall_mem_extend ?_ hvalues)
  exact List.forall_mem_singleton.2 (Json.isFlat_string path).bare

theorem Bare.insert (h : definition.Bare P) (hkey : P key) (hne : key ≠ "$ref")
    (hvalue : value.Bare P) : (definition.insert key value).Bare P := by
  by_cases hreference : definition.IsReference
  · exact ((h.onlyKeys hreference).insert (.inr hkey)).bare
      (Dict.forall_mem_insert h.values hvalue)
  · exact (Plain.insert ⟨hreference, h.values⟩ hne hvalue).bare

/-! ## The steps of the rules -/

theorem bare_array {schemas : List Definition} (h : ∀ schema ∈ schemas, schema.Bare P) :
    (Json.array (schemas.map toJson)).Bare P := by
  refine Json.bare_array.2 fun value hvalue => ?_
  obtain ⟨schema, hschema, rfl⟩ := List.mem_map.1 hvalue
  exact h schema hschema

/-- Properties are none, whatever their names: their schemas are objects. -/
theorem bare_properties {kept : List KeptProperty} (h : ∀ p ∈ kept, p.schema.Bare P) :
    (Json.object (Dict.ofEntries (kept.map fun p => (p.name, p.schema.toJson)))).Bare P := by
  refine Json.bare_object.2 ⟨?_, fun entry hentry => ?_⟩
  · rintro ⟨target, hmem⟩
    obtain ⟨p, _, heq⟩ := List.mem_map.1 (Dict.mem_of_mem_ofEntries hmem)
    cases congrArg Prod.snd heq
  · obtain ⟨p, hp, rfl⟩ := List.mem_map.1 (Dict.mem_of_mem_ofEntries hentry)
    exact h p hp

/-- `null` is no reference, since it has a type. -/
theorem Bare.makeNullable (h : definition.Bare P) (htype : ¬P "type")
    (hnull : definition.typeName? = some "null") : definition.makeNullable.Bare P :=
  (Plain.isKept.extends (Extends.start.makeNullable fun _ _ => id)
    (h.plain htype (contains_of_typeName? hnull))).bare

/-- What is written as `null` with a keyword has a type. -/
theorem contains_of_isNullableNull (h : definition.isNullableNull = true) :
    definition.contains "type" = true :=
  contains_of_typeName? (eq_of_beq (Bool.and_eq_true_iff.1 (Bool.and_eq_true_iff.1 h).1).2)

/-- A union of a primitive type and of `null` is no reference, since both have a type. -/
theorem Plain.unite {schemas : List Definition} (h : definition.Plain P)
    (hkeys : definition.OnlyKeys P) (htype : ¬P "type") (hschemas : ∀ schema ∈ schemas, schema.Bare P)
    (keyword : UnionKeyword) (nullable : Bool) :
    (definition.unite keyword nullable schemas).Bare P := by
  rcases unite_cases definition keyword nullable schemas with
    ⟨only, rfl, heq⟩ | ⟨primitive, null, _, hboth, heq⟩ | heq
  · rw [heq]
    exact h.merge_bare hkeys (hschemas _ (List.mem_singleton.2 rfl))
  · rw [heq]
    obtain ⟨_, hbare, hnullable⟩ := of_primitiveAndNull? hboth
    obtain ⟨hprimitive, hnull⟩ := mem_of_primitiveAndNull? hboth
    exact ((h.merge ((hschemas _ hprimitive).plain htype (Bool.and_eq_true_iff.1 hbare).2)).merge
      ((hschemas _ hnull).plain htype (contains_of_isNullableNull hnullable))).bare
  · rw [heq]
    refine (h.insert ?_ (bare_array hschemas)).bare
    cases keyword <;> decide

theorem Plain.intersect {schemas : List Definition} (h : definition.Plain P)
    (hkeys : definition.OnlyKeys P) (hschemas : ∀ schema ∈ schemas, schema.Bare P) :
    (definition.intersect schemas).Bare P := by
  rcases intersect_cases definition schemas with ⟨only, rfl, heq⟩ | heq
  · exact heq ▸ h.merge_bare hkeys (hschemas _ (List.mem_singleton.2 rfl))
  · exact heq ▸ (h.insert (by decide) (bare_array hschemas)).bare

end Definition

end TypeSchema
