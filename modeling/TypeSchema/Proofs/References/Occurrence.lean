import TypeSchema.Proofs.Dict
import TypeSchema.Schema.Definition

/-!
# Where references stand

A reference is a text under the key `$ref`, at any depth of a value.  `Json.Refers` says that a value
holds one, and `RefersOnly P` that all it holds satisfy `P`.

What a schema refers to is what its entries do (`Definition.refersOnly_iff`), so neither entering a keyword
nor merging schemas makes a reference.
-/

set_option autoImplicit false

namespace TypeSchema

/-! ## Values -/

namespace Json

/-- The text stands somewhere in the value under the key `$ref`. -/
inductive Refers : Json → String → Prop
  | here {fields : List (String × Json)} {target : String} (h : ("$ref", .string target) ∈ fields) :
      Refers (.object fields) target
  | field {fields : List (String × Json)} {key : String} {value : Json} {target : String}
      (hmem : (key, value) ∈ fields) (h : Refers value target) : Refers (.object fields) target
  | item {items : List Json} {value : Json} {target : String} (hmem : value ∈ items)
      (h : Refers value target) : Refers (.array items) target

theorem Refers.of_get? {value inner : Json} {key target : String} (h : inner.Refers target)
    (hget : value.get? key = some inner) : value.Refers target := by
  obtain ⟨fields, rfl, hget⟩ := exists_fields_of_get? hget
  exact .field (Dict.mem_of_get? hget) h

theorem Refers.of_get?_ref {value reference : Json} {target : String}
    (hget : value.get? "$ref" = some reference) (htext : reference.text? = some target) :
    value.Refers target := by
  obtain ⟨fields, rfl, hget⟩ := exists_fields_of_get? hget
  rw [eq_string_of_text? htext] at hget
  exact .here (Dict.mem_of_get? hget)

/-- All references in the value satisfy `P`. -/
def RefersOnly (P : String → Prop) (value : Json) : Prop :=
  ∀ target, value.Refers target → P target

variable {P Q : String → Prop} {value : Json}

theorem RefersOnly.mono (h : value.RefersOnly P) (hPQ : ∀ target, P target → Q target) :
    value.RefersOnly Q :=
  fun target ht => hPQ target (h target ht)

@[simp] theorem refersOnly_null : Json.null.RefersOnly P := fun _ h => nomatch h

@[simp] theorem refersOnly_bool (b : Bool) : (Json.bool b).RefersOnly P := fun _ h => nomatch h

@[simp] theorem refersOnly_number (n : Number) : (Json.number n).RefersOnly P :=
  fun _ h => nomatch h

@[simp] theorem refersOnly_string (s : String) : (Json.string s).RefersOnly P :=
  fun _ h => nomatch h

@[simp] theorem refersOnly_ofNat (n : Nat) : (Json.ofNat n).RefersOnly P := fun _ h => nomatch h

theorem refersOnly_array {items : List Json} :
    (Json.array items).RefersOnly P ↔ ∀ value ∈ items, value.RefersOnly P := by
  constructor
  · exact fun h value hvalue target ht => h target (.item hvalue ht)
  · rintro h target (_ | _ | ⟨hmem, ht⟩)
    exact h _ hmem target ht

@[simp] theorem refersOnly_strings (texts : List String) : (Json.strings texts).RefersOnly P := by
  refine refersOnly_array.2 fun value hvalue => ?_
  obtain ⟨text, _, rfl⟩ := List.mem_map.1 hvalue
  exact refersOnly_string text

/-- What an entry of an object refers to satisfies `P`: the entry itself, if its key is `$ref`, and
all references in its value. -/
def EntryOnly (P : String → Prop) (entry : String × Json) : Prop :=
  (∀ target, entry = ("$ref", .string target) → P target) ∧ entry.2.RefersOnly P

theorem EntryOnly.of_ne {key : String} (hkey : key ≠ "$ref") (hvalue : value.RefersOnly P) :
    EntryOnly P (key, value) :=
  ⟨fun _ h => absurd (congrArg Prod.fst h) hkey, hvalue⟩

theorem refersOnly_object {fields : List (String × Json)} :
    (Json.object fields).RefersOnly P ↔ ∀ entry ∈ fields, EntryOnly P entry := by
  constructor
  · rintro h ⟨key, value⟩ hentry
    refine ⟨fun target heq => h target (.here (heq ▸ hentry)), fun target ht => ?_⟩
    exact h target (.field hentry ht)
  · rintro h target (hmem | ⟨hmem, ht⟩)
    · exact (h _ hmem).1 target rfl
    · exact (h _ hmem).2 target ht

end Json

/-! ## Definitions -/

namespace Definition

/-- All references in the schema satisfy `P`. -/
def RefersOnly (P : String → Prop) (definition : Definition) : Prop :=
  definition.toJson.RefersOnly P

variable {P Q : String → Prop} {definition other : Definition} {key : String} {value : Json}

theorem refersOnly_iff : definition.RefersOnly P ↔ ∀ entry ∈ definition, Json.EntryOnly P entry :=
  Json.refersOnly_object

theorem RefersOnly.mono (h : definition.RefersOnly P) (hPQ : ∀ target, P target → Q target) :
    definition.RefersOnly Q :=
  Json.RefersOnly.mono h hPQ

@[simp] theorem refersOnly_empty : empty.RefersOnly P :=
  refersOnly_iff.2 fun _ h => absurd h List.not_mem_nil

theorem refersOnly_reference {path : String} (h : P path) : (reference path).RefersOnly P := by
  refine refersOnly_iff.2 fun entry hentry => ?_
  obtain rfl := List.mem_singleton.1 hentry
  refine ⟨fun target heq => ?_, Json.refersOnly_string path⟩
  simp only [Prod.mk.injEq, Json.string.injEq, true_and] at heq
  exact heq ▸ h

/-- A keyword whose value is harmless is entered. -/
theorem RefersOnly.insert (h : definition.RefersOnly P) (hentry : Json.EntryOnly P (key, value)) :
    (definition.insert key value).RefersOnly P :=
  refersOnly_iff.2 (Dict.forall_mem_insert (refersOnly_iff.1 h) hentry)

theorem RefersOnly.merge (h : definition.RefersOnly P) (hother : other.RefersOnly P) :
    (definition.merge other).RefersOnly P :=
  refersOnly_iff.2 (Dict.forall_mem_extend (refersOnly_iff.1 h) (refersOnly_iff.1 hother))

theorem RefersOnly.refAnnotations (h : definition.RefersOnly P) :
    definition.refAnnotations.RefersOnly P :=
  refersOnly_iff.2 fun entry hmem => refersOnly_iff.1 h entry (List.mem_filter.1 hmem).1

/-- What stands under a keyword refers to nothing else. -/
theorem RefersOnly.get? (h : definition.RefersOnly P) (hget : definition.get? key = some value) :
    value.RefersOnly P :=
  (refersOnly_iff.1 h _ (Dict.mem_of_get? hget)).2

/-- Schemas listed in an array refer to what they refer to one by one. -/
theorem refersOnly_array {schemas : List Definition} (h : ∀ schema ∈ schemas, schema.RefersOnly P) :
    (Json.array (schemas.map toJson)).RefersOnly P := by
  refine Json.refersOnly_array.2 fun value hvalue => ?_
  obtain ⟨schema, hschema, rfl⟩ := List.mem_map.1 hvalue
  exact h schema hschema

end Definition

end TypeSchema
