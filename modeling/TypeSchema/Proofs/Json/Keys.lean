import TypeSchema.Json.Decoder
import TypeSchema.Proofs.Dict

/-!
# Keys that are not repeated

The type of values admits an object that repeats a key, and such an object can be written.  Nothing
that is read is one: a draft keeps repeated keys, but they are settled when its value is taken
(`Draft.hasUniqueKeys_of_json?`).  Entering a key into an object, and entries of one into another,
repeats no key either.
-/

set_option autoImplicit false

namespace TypeSchema

namespace Json

/-- The object stands somewhere in the value. -/
inductive HasObject : Json → Dict Json → Prop
  | here {fields : Dict Json} : HasObject (.object fields) fields
  | field {fields inner : Dict Json} {key : String} {value : Json} (hmem : (key, value) ∈ fields)
      (h : HasObject value inner) : HasObject (.object fields) inner
  | item {items : List Json} {value : Json} {inner : Dict Json} (hmem : value ∈ items)
      (h : HasObject value inner) : HasObject (.array items) inner

theorem HasObject.of_get? {value inner : Json} {key : String} {fields : Dict Json}
    (h : inner.HasObject fields) (hget : value.get? key = some inner) : value.HasObject fields := by
  obtain ⟨entries, rfl, hget⟩ := exists_fields_of_get? hget
  exact .field (Dict.mem_of_get? hget) h

section

variable {R : Dict Json → Prop}

/-- The objects in an array are those in its items. -/
theorem forall_hasObject_array {items : List Json} :
    (∀ fields, (Json.array items).HasObject fields → R fields) ↔
      ∀ value ∈ items, ∀ fields, value.HasObject fields → R fields := by
  constructor
  · exact fun h value hvalue fields hobject => h fields (.item hvalue hobject)
  · rintro h fields (_ | _ | ⟨hmem, hobject⟩)
    exact h _ hmem fields hobject

/-- Those in an object are itself and the ones in its values. -/
theorem forall_hasObject_object {fields : Dict Json} :
    (∀ inner, (Json.object fields).HasObject inner → R inner) ↔
      R fields ∧ ∀ entry ∈ fields, ∀ inner, entry.2.HasObject inner → R inner := by
  constructor
  · exact fun h => ⟨h fields .here, fun entry hentry inner hobject =>
      h inner (.field hentry hobject)⟩
  · rintro ⟨hown, hvalues⟩ inner (_ | ⟨hmem, hobject⟩ | _)
    · exact hown
    · exact hvalues _ hmem inner hobject

end

/-- No object in the value repeats a key. -/
def HasUniqueKeys (value : Json) : Prop :=
  ∀ fields, value.HasObject fields → (Dict.keys fields).Nodup

variable {value : Json} {fields other : Dict Json} {key : String}

theorem hasUniqueKeys_null : Json.null.HasUniqueKeys := fun _ h => nomatch h

theorem hasUniqueKeys_bool (b : Bool) : (Json.bool b).HasUniqueKeys := fun _ h => nomatch h

theorem hasUniqueKeys_number (n : Number) : (Json.number n).HasUniqueKeys := fun _ h => nomatch h

theorem hasUniqueKeys_string (text : String) : (Json.string text).HasUniqueKeys :=
  fun _ h => nomatch h

theorem hasUniqueKeys_array {items : List Json} :
    (Json.array items).HasUniqueKeys ↔ ∀ value ∈ items, value.HasUniqueKeys :=
  forall_hasObject_array

theorem hasUniqueKeys_object : (Json.object fields).HasUniqueKeys ↔
    (Dict.keys fields).Nodup ∧ ∀ entry ∈ fields, entry.2.HasUniqueKeys :=
  forall_hasObject_object

theorem hasUniqueKeys_strings (texts : List String) : (Json.strings texts).HasUniqueKeys := by
  refine hasUniqueKeys_array.2 fun value hvalue => ?_
  obtain ⟨text, _, rfl⟩ := List.mem_map.1 hvalue
  exact hasUniqueKeys_string text

/-- What an object has under a key repeats no key. -/
theorem HasUniqueKeys.of_get? {inner : Json} (h : value.HasUniqueKeys)
    (hget : value.get? key = some inner) : inner.HasUniqueKeys :=
  fun fields hobject => h fields (hobject.of_get? hget)

/-! ## Entering -/

theorem HasUniqueKeys.insert (h : (Json.object fields).HasUniqueKeys) (hvalue : value.HasUniqueKeys) :
    (Json.object (Dict.insert fields key value)).HasUniqueKeys := by
  obtain ⟨hkeys, hvalues⟩ := hasUniqueKeys_object.1 h
  exact hasUniqueKeys_object.2
    ⟨Dict.nodup_keys_insert hkeys, Dict.forall_mem_insert hvalues hvalue⟩

/-- Entries are entered one after the other, so they may repeat a key themselves. -/
theorem HasUniqueKeys.extend (h : (Json.object fields).HasUniqueKeys)
    (hother : ∀ entry ∈ other, entry.2.HasUniqueKeys) :
    (Json.object (Dict.extend fields other)).HasUniqueKeys := by
  obtain ⟨hkeys, hvalues⟩ := hasUniqueKeys_object.1 h
  exact hasUniqueKeys_object.2
    ⟨Dict.nodup_keys_extend hkeys, Dict.forall_mem_extend hvalues hother⟩

theorem hasUniqueKeys_ofEntries (h : ∀ entry ∈ fields, entry.2.HasUniqueKeys) :
    (Json.object (Dict.ofEntries fields)).HasUniqueKeys :=
  HasUniqueKeys.extend (hasUniqueKeys_object.2 ⟨List.nodup_nil, List.forall_mem_nil _⟩) h

/-- Some of the entries, in their order. -/
theorem HasUniqueKeys.sublist (h : (Json.object fields).HasUniqueKeys) (hsub : other.Sublist fields) :
    (Json.object other).HasUniqueKeys := by
  obtain ⟨hkeys, hvalues⟩ := hasUniqueKeys_object.1 h
  exact hasUniqueKeys_object.2 ⟨hkeys.sublist (hsub.map Prod.fst),
    fun entry hmem => hvalues entry (hsub.subset hmem)⟩

end Json

/-! ## Reading -/

namespace Draft

open Json

mutual

/-- What a draft is worth repeats no key, along with what its items and its entries are worth. -/
theorem hasUniqueKeys_of_json? {levels : Nat} {value : Json} :
    ∀ {draft : Draft}, draft.json? levels = some value → value.HasUniqueKeys
  | .null, h => by
    cases h
    exact hasUniqueKeys_null
  | .bool b, h => by
    cases h
    exact hasUniqueKeys_bool b
  | .number n, h => by
    obtain ⟨number, _, rfl⟩ := Option.map_eq_some_iff.1 h
    exact hasUniqueKeys_number number
  | .string s, h => by
    obtain ⟨text, _, rfl⟩ := Option.map_eq_some_iff.1 h
    exact hasUniqueKeys_string text
  | .array items closed, h => by
    obtain ⟨_, values, _, _, hvalues, rfl⟩ := exists_items_of_json? h
    exact hasUniqueKeys_array.2 (hasUniqueKeys_of_jsonItems? hvalues)
  | .object fields closed, h => by
    obtain ⟨_, entries, _, _, hentries, rfl⟩ := exists_fields_of_json? h
    exact hasUniqueKeys_ofEntries (hasUniqueKeys_of_jsonFields? hentries)
  | .broken, h => by cases h

theorem hasUniqueKeys_of_jsonItems? {levels : Nat} {values : List Json} :
    ∀ {items : List Draft}, jsonItems? levels items = some values →
      ∀ value ∈ values, value.HasUniqueKeys
  | [], h => by
    cases h
    exact List.forall_mem_nil _
  | item :: rest, h => by
    rw [jsonItems?] at h
    obtain ⟨first, hfirst, h⟩ := Option.bind_eq_some_iff.1 h
    obtain ⟨others, hothers, h⟩ := Option.bind_eq_some_iff.1 h
    cases h
    exact List.forall_mem_cons.2
      ⟨hasUniqueKeys_of_json? hfirst, hasUniqueKeys_of_jsonItems? hothers⟩

theorem hasUniqueKeys_of_jsonFields? {levels : Nat} {entries : List (String × Json)} :
    ∀ {fields : List (Option String × Draft)}, jsonFields? levels fields = some entries →
      ∀ entry ∈ entries, entry.2.HasUniqueKeys
  | [], h => by
    cases h
    exact List.forall_mem_nil _
  | (key, draft) :: rest, h => by
    rw [jsonFields?] at h
    obtain ⟨name, _, h⟩ := Option.bind_eq_some_iff.1 h
    obtain ⟨value, hvalue, h⟩ := Option.bind_eq_some_iff.1 h
    obtain ⟨others, hothers, h⟩ := Option.bind_eq_some_iff.1 h
    cases h
    exact List.forall_mem_cons.2
      ⟨hasUniqueKeys_of_json? hvalue, hasUniqueKeys_of_jsonFields? hothers⟩

end

end Draft

/-- What is read as a value of any shape repeats no key. -/
theorem hasUniqueKeys_of_decodeText {text : String} {value : Json}
    (h : decodeText Decoder.any text = .ok value) : value.HasUniqueKeys := by
  rw [decodeText, Decoder.any] at h
  split at h
  · rename_i hread
    cases h
    exact Draft.hasUniqueKeys_of_json? hread
  · cases h

theorem Json.hasUniqueKeys_of_parse? {text : String} {value : Json}
    (h : Json.parse? text = some value) : value.HasUniqueKeys := by
  rw [Json.parse?] at h
  split at h
  · split at h
    · exact Draft.hasUniqueKeys_of_json? h
    · cases h
  · cases h

end TypeSchema
