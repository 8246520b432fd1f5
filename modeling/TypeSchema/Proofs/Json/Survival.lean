import TypeSchema.Proofs.Json.Records

/-!
# Values that are read back as they are

A value survives being written and read if it does not nest too deep, no object in it repeats a key and
every number is read back as itself.  All of this holds of the parts of a value as well, so it is
assumed of a document as a whole and taken along to its parts: lists and dictionaries are read back if
their values are, and a record with entries of its own choosing if it does not choose the name of a
field.  How deep a value nests and which numbers are in it can be computed.
-/

set_option autoImplicit false

namespace TypeSchema

/-- What is written for infinities is no number. -/
theorem Number.IsStable.isFinite {n : Number} (h : n.IsStable) : n.IsFinite := by
  cases n with
  | integer n => trivial
  | double x =>
    by_contra hinfinite
    have hnone : Double.parts? x = none := by
      simpa [Number.IsFinite, Double.isFinite] using hinfinite
    have htext : Double.text .json x = "null" := by
      rw [Double.text, hnone]
      simp [Double.Layout.json]
    rw [Number.IsStable, Number.reread?, Json.numeral, htext] at h
    cases h

namespace Json

variable {levels : Nat} {value : Json} {items : List Json} {fields : List (String × Json)}

/-- The value is read back as it is where so many levels may be entered. -/
structure Survives (levels : Nat) (value : Json) : Prop where
  nests : value.NestsWithin levels
  keys : value.HasUniqueKeys
  numbers : value.AllNumbers Number.IsStable

theorem NestsWithin.succ (h : value.NestsWithin levels) : value.NestsWithin (levels + 1) := by
  induction levels generalizing value with
  | zero => cases value <;> simp_all [NestsWithin]
  | succ levels ih =>
    cases value with
    | array items => exact fun item hmem => ih (h item hmem)
    | object fields => exact fun entry hmem => ih (h entry hmem)
    | _ => trivial

namespace Survives

theorem succ (h : value.Survives levels) : value.Survives (levels + 1) :=
  ⟨h.nests.succ, h.keys, h.numbers⟩

theorem isFinite (h : value.Survives levels) : value.IsFinite :=
  fun n hn => (h.numbers n hn).isFinite

theorem array (h : (Json.array items).Survives levels) :
    ∃ inner, levels = inner + 1 ∧ ∀ item ∈ items, item.Survives inner := by
  cases levels with
  | zero => exact absurd h.nests id
  | succ inner =>
    exact ⟨inner, rfl, fun item hmem => ⟨h.nests item hmem, hasUniqueKeys_array.1 h.keys item hmem,
      allNumbers_array.1 h.numbers item hmem⟩⟩

theorem object (h : (Json.object fields).Survives levels) :
    ∃ inner, levels = inner + 1 ∧ (Dict.keys fields).Nodup ∧
      ∀ entry ∈ fields, entry.2.Survives inner := by
  cases levels with
  | zero => exact absurd h.nests id
  | succ inner =>
    obtain ⟨hown, hvalues⟩ := hasUniqueKeys_object.1 h.keys
    exact ⟨inner, rfl, hown, fun entry hmem => ⟨h.nests entry hmem, hvalues entry hmem,
      allNumbers_object.1 h.numbers entry hmem⟩⟩

theorem json? (h : value.Survives levels) : value.draft.json? levels = some value :=
  json?_draft h.nests h.keys h.numbers

end Survives

/-! ## Deciding whether a value survives -/

mutual

/-- The numbers in the value. -/
def numbers : Json → List Number
  | .number n => [n]
  | .array items => itemNumbers items
  | .object fields => fieldNumbers fields
  | _ => []

def itemNumbers : List Json → List Number
  | [] => []
  | item :: rest => numbers item ++ itemNumbers rest

def fieldNumbers : List (String × Json) → List Number
  | [] => []
  | (_, value) :: rest => numbers value ++ fieldNumbers rest

end

section

variable {P : Number → Prop}

mutual

theorem allNumbers_iff : ∀ {value : Json}, value.AllNumbers P ↔ ∀ n ∈ value.numbers, P n
  | .null => by simp [numbers]
  | .bool _ => by simp [numbers]
  | .number _ => by simp [numbers]
  | .string _ => by simp [numbers]
  | .array items => by rw [allNumbers_array, numbers, allNumbers_items_iff]
  | .object fields => by rw [allNumbers_object, numbers, allNumbers_fields_iff]

theorem allNumbers_items_iff : ∀ {items : List Json},
    (∀ item ∈ items, item.AllNumbers P) ↔ ∀ n ∈ itemNumbers items, P n
  | [] => by simp [itemNumbers]
  | item :: rest => by
    rw [List.forall_mem_cons, itemNumbers, List.forall_mem_append, allNumbers_iff,
      allNumbers_items_iff]

theorem allNumbers_fields_iff : ∀ {fields : List (String × Json)},
    (∀ entry ∈ fields, entry.2.AllNumbers P) ↔ ∀ n ∈ fieldNumbers fields, P n
  | [] => by simp [fieldNumbers]
  | (_, value) :: rest => by
    rw [List.forall_mem_cons, fieldNumbers, List.forall_mem_append, allNumbers_iff,
      allNumbers_fields_iff]

end

instance [DecidablePred P] : Decidable (value.AllNumbers P) :=
  decidable_of_iff _ allNumbers_iff.symm

end

instance decidableNestsWithin : ∀ (levels : Nat) (value : Json), Decidable (value.NestsWithin levels)
  | 0, .array _ => isFalse id
  | 0, .object _ => isFalse id
  | levels + 1, .array items =>
    have := decidableNestsWithin levels
    inferInstanceAs (Decidable (∀ item ∈ items, NestsWithin levels item))
  | levels + 1, .object fields =>
    have := decidableNestsWithin levels
    inferInstanceAs (Decidable (∀ entry ∈ fields, NestsWithin levels entry.2))
  | _, .null => isTrue (by simp [NestsWithin])
  | _, .bool _ => isTrue (by simp [NestsWithin])
  | _, .number _ => isTrue (by simp [NestsWithin])
  | _, .string _ => isTrue (by simp [NestsWithin])

end Json

namespace Decoder

open Json

variable {α ρ : Type} {levels : Nat} {decode : Decoder α} {write : α → Json}

theorem readBack_any {value : Json} (h : value.Survives levels) : readBack any levels value = some value := by
  rw [readBack, any, h.json?]
  rfl

/-- A list is read back if its items are. -/
theorem readBack_list_of_survives {values : List α}
    (h : (Json.array (values.map write)).Survives levels)
    (hvalues : ∀ value ∈ values, ∀ inner, (write value).Survives inner →
      readBack decode inner (write value) = some value) :
    readBack (list decode) levels (.array (values.map write)) = some values := by
  obtain ⟨inner, rfl, hitems⟩ := h.array
  exact readBack_list_some fun value hmem =>
    hvalues value hmem inner (hitems _ (List.mem_map_of_mem hmem))

/-- A dictionary is read back if its values are. -/
theorem readBack_dict_of_survives {values : Dict α}
    (h : (Json.object (values.map fun entry => (entry.1, write entry.2))).Survives levels)
    (hvalues : ∀ entry ∈ values, ∀ inner, (write entry.2).Survives inner →
      readBack decode inner (write entry.2) = some entry.2) :
    readBack (dict decode) levels (.object (values.map fun entry => (entry.1, write entry.2))) =
      some values := by
  obtain ⟨inner, rfl, hown, hentries⟩ := h.object
  have hnodup : (Dict.keys values).Nodup := by simpa [Dict.keys, Function.comp_def] using hown
  exact readBack_dict hnodup fun entry hmem =>
    hvalues entry hmem inner (hentries _ (List.mem_map_of_mem hmem))

/-- A dictionary of free-form values. -/
theorem readBack_dict_any {fields : Dict Json} (h : (Json.object fields).Survives levels) :
    readBack (dict any) levels (.object fields) = some fields := by
  obtain ⟨inner, rfl, hown, hentries⟩ := h.object
  have hid : fields.map (fun entry => (entry.1, id entry.2)) = fields := List.map_id fields
  have hread : readBack (dict any) (inner + 1) (.object (fields.map fun entry =>
      (entry.1, id entry.2))) = some fields :=
    readBack_dict hown fun entry hmem => readBack_any (hentries entry hmem)
  rwa [hid] at hread

/-- The values of entries that are handed on. -/
theorem filterMap_drafts {others : List (String × Json)}
    (h : ∀ entry ∈ others, entry.2.draft.json? levels = some entry.2) :
    ((others.map fun entry => (entry.1, entry.2.draft)).filterMap fun entry =>
      (entry.2.json? levels).map fun value => (entry.1, value)) = others := by
  induction others with
  | nil => rfl
  | cons entry rest ih =>
    rw [List.map_cons, List.filterMap_cons, h entry List.mem_cons_self,
      ih fun other hmem => h other (.tail _ hmem)]
    rfl

/-- A record that keeps entries of its own choosing is read back. -/
theorem readBack_openRecord {fields : List (RecordField ρ)} {blank result value : ρ}
    {gather : ρ → Dict Json → ρ} {names : List String} {entries others kept : List (String × Json)}
    (h : Enters fields levels names entries others blank result) (hkept : others = kept)
    (hvalues : ∀ entry ∈ kept, entry.2.Survives levels) (hkeys : (Dict.keys kept).Nodup)
    (hresult : gather result kept = value) (hnodup : names.Nodup)
    (hrequired : ∀ field ∈ fields, field.absence = .refused → field.name ∈ Dict.keys entries) :
    readBack (openRecord blank fields gather) (levels + 1) (.object entries) = some value := by
  subst hkept hresult
  refine toOption_bind_of (fromObject_of_enters h hnodup hrequired) ?_
  show some (gather result (Dict.ofEntries ((others.map fun entry =>
    (entry.1, entry.2.draft)).filterMap fun entry =>
      (entry.2.json? (levels + 1)).map fun value => (entry.1, value)))) = _
  rw [filterMap_drafts fun entry hmem => (hvalues entry hmem).succ.json?, Dict.ofEntries_of_nodup hkeys]

end Decoder

end TypeSchema
