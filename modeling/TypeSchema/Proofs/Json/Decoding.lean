import TypeSchema.Proofs.Json.Keys
import TypeSchema.Proofs.Results

/-!
# What is read

A decoder makes nothing that is not made by the decoders it consists of, so what holds of everything
they read holds of what it reads (`Decoder.Ensures`).  A record is what its fields make of a blank one,
in whatever order they come; a record that keeps other entries keeps none under the name of a field,
and none twice (`Decoder.ensures_openRecord`).
-/

set_option autoImplicit false

namespace TypeSchema

open Json

theorem Draft.eq_null_of_json? {levels : Nat} {draft : Draft} (h : draft.json? levels = some .null) :
    draft = .null := by
  cases draft with
  | null => rfl
  | array items closed =>
    obtain ⟨_, _, _, _, _, heq⟩ := exists_items_of_json? h
    cases heq
  | object fields closed =>
    obtain ⟨_, _, _, _, _, heq⟩ := exists_fields_of_json? h
    cases heq
  | _ => simp [json?] at h

namespace Decoder

variable {α β ρ : Type} {decode : Decoder α} {P Q : α → Prop}

/-- What the decoder reads is as stated. -/
def Ensures (decode : Decoder α) (P : α → Prop) : Prop :=
  ∀ levels draft value, decode levels draft = .ok value → P value

theorem Ensures.decodeText (h : Ensures decode P) {text : String} {value : α}
    (hread : decodeText decode text = .ok value) : P value :=
  h _ _ _ hread

theorem Ensures.imp (h : Ensures decode P) (himp : ∀ value, P value → Q value) : Ensures decode Q :=
  fun levels draft value hread => himp value (h levels draft value hread)

theorem ensures_true (decode : Decoder α) : Ensures decode fun _ => True :=
  fun _ _ _ _ => trivial

theorem json?_of_any {levels : Nat} {draft : Draft} {value : Json} (h : any levels draft = .ok value) :
    draft.json? levels = some value := by
  rw [any] at h
  split at h
  · rename_i hread
    cases h
    exact hread
  · cases h

theorem ensures_any : Ensures any HasUniqueKeys :=
  fun _ _ _ h => Draft.hasUniqueKeys_of_json? (json?_of_any h)

/-! ## Results -/

theorem eq_ok_of_inside {step : Step} {result : Except DecodeFault α} {value : α}
    (h : inside step result = .ok value) : result = .ok value := by
  cases result with
  | error fault => cases h
  | ok inner => exact h

/-! ## Lists and dictionaries -/

theorem of_optional_eq_ok {levels : Nat} {draft : Draft} {value : α}
    (h : optional decode levels draft = .ok (some value)) :
    draft ≠ .null ∧ decode levels draft = .ok value := by
  cases draft
  case null => cases h
  all_goals
    obtain ⟨found, hfound, heq⟩ := map_eq_ok_iff.1 h
    cases heq
    exact ⟨nofun, hfound⟩

theorem Ensures.optional (h : Ensures decode P) :
    Ensures (optional decode) fun value => ∀ inner, value = some inner → P inner := by
  rintro levels draft _ hread inner rfl
  exact h _ _ _ (of_optional_eq_ok hread).2

/-- A value that may be missing is never `null`, which is read as missing. -/
theorem ensures_optional_any : Ensures (Decoder.optional any) fun value =>
    ∀ inner, value = some inner → inner.HasUniqueKeys ∧ inner ≠ .null := by
  rintro levels draft _ hread inner rfl
  obtain ⟨hdraft, hvalue⟩ := of_optional_eq_ok hread
  refine ⟨ensures_any _ _ _ hvalue, ?_⟩
  rintro rfl
  exact hdraft (Draft.eq_null_of_json? (json?_of_any hvalue))

theorem Ensures.items (h : Ensures decode P) {levels n : Nat} {drafts : List Draft} {values : List α}
    (hread : items decode levels n drafts = .ok values) : ∀ value ∈ values, P value := by
  induction drafts generalizing n values with
  | nil =>
    cases hread
    exact List.forall_mem_nil _
  | cons draft rest ih =>
    rw [Decoder.items] at hread
    obtain ⟨first, hfirst, hread⟩ := bind_eq_ok_iff.1 hread
    obtain ⟨others, hothers, hread⟩ := bind_eq_ok_iff.1 hread
    cases hread
    exact List.forall_mem_cons.2 ⟨h _ _ _ (eq_ok_of_inside hfirst), ih hothers⟩

theorem Ensures.list (h : Ensures decode P) :
    Ensures (list decode) fun values => ∀ value ∈ values, P value := by
  intro levels draft values hread
  unfold Decoder.list at hread
  split at hread
  · cases hread
  · obtain ⟨found, hfound, hread⟩ := bind_eq_ok_iff.1 hread
    split at hread
    · cases hread
      exact h.items hfound
    · cases hread
  · cases hread

theorem Ensures.entries (h : Ensures decode P) {levels : Nat} {fields : List (Option String × Draft)}
    {values : List (String × α)} (hread : entries decode levels fields = .ok values) :
    ∀ entry ∈ values, P entry.2 := by
  induction fields generalizing values with
  | nil =>
    cases hread
    exact List.forall_mem_nil _
  | cons field rest ih =>
    obtain ⟨key, draft⟩ := field
    cases key with
    | none => cases hread
    | some key =>
      rw [Decoder.entries] at hread
      obtain ⟨first, hfirst, hread⟩ := bind_eq_ok_iff.1 hread
      obtain ⟨others, hothers, hread⟩ := bind_eq_ok_iff.1 hread
      cases hread
      exact List.forall_mem_cons.2 ⟨h _ _ _ (eq_ok_of_inside hfirst), ih hothers⟩

/-- A dictionary has each key once. -/
theorem Ensures.dict (h : Ensures decode P) :
    Ensures (dict decode) fun values => (Dict.keys values).Nodup ∧ ∀ entry ∈ values, P entry.2 := by
  intro levels draft values hread
  unfold Decoder.dict at hread
  split at hread
  · cases hread
  · obtain ⟨found, hfound, hread⟩ := bind_eq_ok_iff.1 hread
    split at hread
    · cases hread
      exact ⟨Dict.nodup_keys_ofEntries _, fun entry hmem =>
        h.entries hfound entry (Dict.mem_of_mem_ofEntries hmem)⟩
    · cases hread
  · cases hread

/-! ## Records -/

variable {R : ρ → Prop} {fields : List (RecordField ρ)} {blank : ρ} {name : String}

/-- Entering a value of the field keeps the record as stated. -/
def RecordField.Keeps (field : RecordField ρ) (R : ρ → Prop) : Prop :=
  ∀ record, R record → Ensures (field.enter record) R

theorem RecordField.Keeps.of_map {enter : ρ → Decoder ρ} {absence : Absence} (h : Ensures decode P)
    {set : ρ → α → ρ} (hset : ∀ record value, R record → P value → R (set record value))
    (henter : ∀ record levels draft, enter record levels draft =
      (decode levels draft).map (set record)) : (RecordField.mk name absence enter).Keeps R := by
  intro record hrecord levels draft done hread
  obtain ⟨value, hvalue, rfl⟩ := map_eq_ok_iff.1 ((henter record levels draft).symm.trans hread)
  exact hset record value hrecord (h _ _ _ hvalue)

theorem RecordField.Keeps.required (h : Ensures decode P) {set : ρ → α → ρ}
    (hset : ∀ record value, R record → P value → R (set record value)) :
    (RecordField.required name decode set).Keeps R :=
  .of_map h hset fun _ _ _ => rfl

theorem RecordField.Keeps.preset (h : Ensures decode P) {set : ρ → α → ρ}
    (hset : ∀ record value, R record → P value → R (set record value)) :
    (RecordField.preset name decode set).Keeps R :=
  .of_map h hset fun _ _ _ => rfl

theorem RecordField.Keeps.nullable_of {S : Option α → Prop} (h : Ensures (Decoder.optional decode) S)
    {set : ρ → Option α → ρ} (hset : ∀ record value, R record → S value → R (set record value)) :
    (RecordField.nullable name decode set).Keeps R :=
  .of_map h hset fun _ _ _ => rfl

theorem RecordField.Keeps.nullable (h : Ensures decode P) {set : ρ → Option α → ρ}
    (hset : ∀ record value, R record → (∀ inner, value = some inner → P inner) →
      R (set record value)) : (RecordField.nullable name decode set).Keeps R :=
  .nullable_of h.optional hset

/-- What a walk over entries has gathered is as stated: the record is, and no other entry has the name of
a field. -/
structure Gathers (fields : List (RecordField ρ)) (R : ρ → Prop) (done : Walk ρ) : Prop where
  record : R done.record
  others : ∀ entry ∈ done.others, entry.1 ∉ fields.map RecordField.name

theorem Gathers.walk (hfields : ∀ field ∈ fields, field.Keeps R) {keep : Bool} {levels : Nat}
    {drafts : List (Option String × Draft)} {start done : Walk ρ} (h : Gathers fields R start)
    (hread : walk fields keep levels start drafts = .ok done) : Gathers fields R done := by
  induction drafts generalizing start with
  | nil =>
    cases hread
    exact h
  | cons entry rest ih =>
    obtain ⟨key, draft⟩ := entry
    cases key with
    | none => cases hread
    | some key =>
      rw [Decoder.walk] at hread
      split at hread
      · rename_i field hfield
        split at hread
        · cases hread
        · obtain ⟨record, hrecord, hread⟩ := bind_eq_ok_iff.1 hread
          have hkept : R record := hfields field (List.mem_of_find?_eq_some hfield) _ h.record _ _ _
            (eq_ok_of_inside hrecord)
          have hnext : Gathers fields R ⟨record, key :: start.seen, start.others⟩ := ⟨hkept, h.others⟩
          exact ih hnext hread
      · rename_i hnone
        have hforeign : key ∉ fields.map RecordField.name := by
          intro hmem
          obtain ⟨field, hfield, rfl⟩ := List.mem_map.1 hmem
          simpa using List.find?_eq_none.1 hnone field hfield
        split at hread
        · split at hread
          · have hnext : Gathers fields R ⟨start.record, start.seen, start.others ++ [(key, draft)]⟩ :=
              ⟨h.record, List.forall_mem_append.2 ⟨h.others, List.forall_mem_singleton.2 hforeign⟩⟩
            exact ih hnext hread
          · cases hread
        · split at hread
          · exact ih h hread
          · cases hread

theorem ensures_fromObject (hblank : R blank) (hfields : ∀ field ∈ fields, field.Keeps R)
    (keep : Bool) : Ensures (fromObject blank fields keep) fun done =>
      R done.1 ∧ ∀ entry ∈ done.2, entry.1 ∉ fields.map RecordField.name := by
  intro levels draft done hread
  unfold fromObject at hread
  split at hread
  · cases hread
  · rename_i closed
    obtain ⟨gathered, hgathered, hread⟩ := bind_eq_ok_iff.1 hread
    have h := Gathers.walk hfields ⟨hblank, List.forall_mem_nil _⟩ hgathered
    cases closed with
    | false => cases hread
    | true =>
      have hread : (if complete fields gathered.seen then .ok (gathered.record, gathered.others)
          else .error (DecodeFault.mismatch [])) = Except.ok done := hread
      split at hread
      · cases hread
        exact ⟨h.record, h.others⟩
      · cases hread
  · cases hread

theorem of_fromItems {levels n : Nat} {start : ρ} {drafts : List Draft} {done : ρ × List Draft}
    (hstart : R start) (hfields : ∀ field ∈ fields, field.Keeps R)
    (hread : fromItems levels n start fields drafts = .ok done) : R done.1 := by
  induction fields generalizing n start drafts with
  | nil =>
    cases hread
    exact hstart
  | cons field rest ih =>
    obtain ⟨hfield, hrest⟩ := List.forall_mem_cons.1 hfields
    cases drafts with
    | nil =>
      unfold fromItems at hread
      split at hread
      · cases hread
        exact hstart
      · cases hread
    | cons draft others =>
      rw [fromItems] at hread
      obtain ⟨next, hnext, hread⟩ := bind_eq_ok_iff.1 hread
      exact ih (hfield _ hstart _ _ _ (eq_ok_of_inside hnext)) hrest hread

/-- A record is as stated if the blank one is and every field keeps it so. -/
theorem ensures_record (hblank : R blank) (hfields : ∀ field ∈ fields, field.Keeps R) :
    Ensures (record blank fields) R := by
  intro levels draft done hread
  unfold Decoder.record at hread
  split at hread
  · cases hread
  · split at hread
    · split at hread
      · rename_i hitems
        cases hread
        exact of_fromItems hblank hfields hitems
      · cases hread
      · cases hread
    · split at hread
      · cases hread
      · cases hread
  · obtain ⟨found, hfound, rfl⟩ := map_eq_ok_iff.1 hread
    exact (ensures_fromObject hblank hfields false _ _ _ hfound).1

/-- A record that keeps other entries has none of them under the name of a field, and none twice. -/
theorem ensures_openRecord {gather : ρ → Dict Json → ρ} (hblank : R blank)
    (hfields : ∀ field ∈ fields, field.Keeps R) :
    Ensures (openRecord blank fields gather) fun value => ∃ record others, R record ∧
      value = gather record others ∧ (Json.object others).HasUniqueKeys ∧
        ∀ entry ∈ others, entry.1 ∉ fields.map RecordField.name := by
  intro levels draft value hread
  obtain ⟨done, hdone, hread⟩ := bind_eq_ok_iff.1 hread
  obtain ⟨hrecord, hothers⟩ := ensures_fromObject hblank hfields true _ _ _ hdone
  cases hread
  have hsource : ∀ entry ∈ done.2.filterMap fun entry =>
      (entry.2.json? levels).map fun value => (entry.1, value),
      entry.2.HasUniqueKeys ∧ entry.1 ∉ fields.map RecordField.name := by
    intro entry hmem
    obtain ⟨source, hsource, hvalue⟩ := List.mem_filterMap.1 hmem
    obtain ⟨inner, hinner, rfl⟩ := Option.map_eq_some_iff.1 hvalue
    exact ⟨Draft.hasUniqueKeys_of_json? hinner, hothers source hsource⟩
  exact ⟨done.1, _, hrecord, rfl, hasUniqueKeys_ofEntries fun entry hmem => (hsource entry hmem).1,
    fun entry hmem => (hsource entry (Dict.mem_of_mem_ofEntries hmem)).2⟩

end Decoder

end TypeSchema
