import TypeSchema.Graph.Format
import TypeSchema.Proofs.Json.Reading

/-!
# Records are read back

`Decoder.readBack` is what a decoder makes of the text of a value.  A record is written as an object
with an entry for each field and without those that a reader supplies again, so its keys are names of
fields, none of them twice, and reading it does nothing but enter one value after the other
(**`Decoder.readBack_record`**).  Entries that belong to no field are skipped or, where they are asked
for, handed on as they are.

The result is an optional value, because a value that is written may be one that is not read: a number
whose text is read as one beyond the doubles.
-/

set_option autoImplicit false

namespace TypeSchema

open Json

/-! ## Entries that may be left out -/

theorem forall_mem_optionalEntry {α : Type} {key : String} {write : α → Json} {value : Option α}
    {Q : String × Json → Prop} : (∀ entry ∈ optionalEntry key (value.map write), Q entry) ↔
      ∀ inner, value = some inner → Q (key, write inner) := by
  cases value <;> simp [optionalEntry]

theorem forall_mem_listEntry {α : Type} {key : String} {write : α → Json} {values : List α}
    {Q : String × Json → Prop} : (∀ entry ∈ listEntry key (values.map write), Q entry) ↔
      (values ≠ [] → Q (key, .array (values.map write))) := by
  cases values <;> simp [listEntry]

namespace Decoder

variable {α β ρ : Type} {levels : Nat}

/-- What a decoder makes of the text of a value. -/
def readBack (decode : Decoder α) (levels : Nat) (value : Json) : Option α :=
  (decode levels value.draft).toOption

/-! ## Results -/

theorem toOption_bind (result : Except DecodeFault α) (f : α → Except DecodeFault β) :
    (result >>= f).toOption = result.toOption.bind fun value => (f value).toOption := by
  cases result <;> rfl

theorem toOption_bind_of {result : Except DecodeFault α} {f : α → Except DecodeFault β} {value : α}
    {read : Option β} (h : result.toOption = some value) (hf : (f value).toOption = read) :
    (result >>= f).toOption = read := by
  rw [toOption_bind, h, Option.bind_some, hf]

theorem toOption_bind_eq_none {result : Except DecodeFault α} {f : α → Except DecodeFault β}
    (h : result.toOption = none) : (result >>= f).toOption = none := by
  rw [toOption_bind, h, Option.bind_none]

theorem toOption_map (result : Except DecodeFault α) (f : α → β) :
    (result.map f).toOption = result.toOption.map f := by
  cases result <;> rfl

theorem toOption_inside (step : Step) (result : Except DecodeFault α) :
    (inside step result).toOption = result.toOption := by
  cases result <;> rfl

theorem toOption_eq_some {ε : Type} {result : Except ε α} {value : α} :
    result.toOption = some value ↔ result = .ok value := by
  cases result <;> simp [Except.toOption]

theorem exists_of_mapM_eq_some {f : α → Option β} {items : List α} {values : List β}
    (h : items.mapM f = some values) : ∀ item ∈ items, ∃ value, f item = some value := by
  induction items generalizing values with
  | nil => exact List.forall_mem_nil _
  | cons item rest ih =>
    rw [List.mapM_cons] at h
    obtain ⟨value, hvalue, h⟩ := Option.bind_eq_some_iff.1 h
    obtain ⟨others, hothers, _⟩ := Option.bind_eq_some_iff.1 h
    exact List.forall_mem_cons.2 ⟨⟨value, hvalue⟩, ih hothers⟩

theorem exists_of_mem_of_mapM_eq_some {f : α → Option β} {items : List α} {values : List β}
    (h : items.mapM f = some values) : ∀ value ∈ values, ∃ item ∈ items, f item = some value := by
  induction items generalizing values with
  | nil =>
    cases h
    exact List.forall_mem_nil _
  | cons item rest ih =>
    rw [List.mapM_cons] at h
    obtain ⟨first, hfirst, h⟩ := Option.bind_eq_some_iff.1 h
    obtain ⟨others, hothers, h⟩ := Option.bind_eq_some_iff.1 h
    cases h
    refine List.forall_mem_cons.2 ⟨⟨item, List.mem_cons_self, hfirst⟩, fun value hmem => ?_⟩
    obtain ⟨source, hsource, hvalue⟩ := ih hothers value hmem
    exact ⟨source, List.mem_cons_of_mem _ hsource, hvalue⟩

theorem mapM_eq_self_iff {f : α → Option α} {items : List α} :
    items.mapM f = some items ↔ ∀ item ∈ items, f item = some item := by
  induction items with
  | nil => simp
  | cons item rest ih =>
    rw [List.mapM_cons, List.forall_mem_cons, ← ih]
    constructor
    · intro h
      obtain ⟨value, hvalue, h⟩ := Option.bind_eq_some_iff.1 h
      obtain ⟨others, hothers, h⟩ := Option.bind_eq_some_iff.1 h
      cases h
      exact ⟨hvalue, hothers⟩
    · rintro ⟨hvalue, hothers⟩
      rw [hvalue, hothers]
      rfl

/-! ## Scalars -/

theorem draft_ne_null {value : Json} (h : value ≠ .null) : value.draft ≠ .null := by
  cases value <;> simp_all [draft]

theorem readBack_map (f : α → β) (decode : Decoder α) (value : Json) :
    readBack (map f decode) levels value = (readBack decode levels value).map f :=
  toOption_map _ _

theorem readBack_map_of {f : α → β} {decode : Decoder α} {value : Json} {a : α}
    (h : readBack decode levels value = some a) : readBack (map f decode) levels value = some (f a) := by
  rw [readBack_map, h, Option.map_some]

theorem readBack_string (s : String) : readBack string levels (.string s) = some s := rfl

theorem readBack_flag (b : Bool) : readBack flag levels (.bool b) = some b := rfl

theorem readBack_naturalBelow {bound n : Nat} (h : n < bound) (hbound : bound ≤ UInt64.size) :
    readBack (naturalBelow bound) levels (.ofNat n) = some n := by
  rw [readBack, ofNat, draft, Number.reread?_natCast (h.trans_le hbound), naturalBelow]
  simp [h, Except.toOption]

theorem readBack_word32 (n : UInt32) : readBack word32 levels (.ofNat n.toNat) = some n := by
  rw [word32, readBack_map, readBack_naturalBelow n.toNat_lt_size (by decide), Option.map_some,
    UInt32.ofNat_toNat]

theorem readBack_double (n : Number) :
    readBack double levels (.number n) = n.reread?.map Number.toDouble := by
  rw [readBack, draft]
  cases n.reread? <;> rfl

theorem readBack_choice {choices : List (String × α)} {name : String} {value : α}
    (h : Dict.get? choices name = some value) :
    readBack (choice choices) levels (.string name) = some value := by
  simp [readBack, draft, choice, choose?, h, Except.toOption]

/-! ## Values that may be missing -/

theorem readBack_optional {decode : Decoder α} {value : Json} (h : value ≠ .null) :
    readBack (optional decode) levels value = (readBack decode levels value).map some := by
  have hdraft := draft_ne_null h
  rw [readBack, optional.eq_def]
  split
  · rename_i heq
    exact absurd heq hdraft
  · exact toOption_map _ _

theorem readBack_nullable {decode : Decoder α} {write : α → Json} {value : Option α}
    (h : ∀ inner, value = some inner → write inner ≠ .null ∧
      readBack decode levels (write inner) = some inner) :
    readBack (optional decode) levels (nullable (value.map write)) = some value := by
  cases value with
  | none => rfl
  | some inner =>
    obtain ⟨hne, hread⟩ := h inner rfl
    rw [Option.map_some, nullable, Option.getD_some, readBack_optional hne, hread, Option.map_some]

/-! ## Lists -/

theorem toOption_items {decode : Decoder α} {write : β → Json} {read : β → Option α}
    {values : List β} (h : ∀ value ∈ values, readBack decode levels (write value) = read value)
    (n : Nat) :
    (items decode levels n (itemDrafts (values.map write))).toOption = values.mapM read := by
  induction values generalizing n with
  | nil => rfl
  | cons value rest ih =>
    have hrest := ih (fun other hmem => h other (.tail _ hmem)) (n + 1)
    have hvalue := h value List.mem_cons_self
    rw [List.map_cons, itemDrafts, items, toOption_bind, toOption_inside, ← readBack, hvalue,
      List.mapM_cons]
    congr 1
    funext first
    rw [toOption_bind, hrest]
    rfl

/-- A list is read back item by item. -/
theorem readBack_list {decode : Decoder α} {write : β → Json} {read : β → Option α} {values : List β}
    (h : ∀ value ∈ values, readBack decode levels (write value) = read value) :
    readBack (list decode) (levels + 1) (.array (values.map write)) = values.mapM read := by
  rw [readBack, draft, list, toOption_bind, toOption_items h]
  cases values.mapM read <;> rfl

/-- A list is read back if its items are. -/
theorem readBack_list_some {decode : Decoder α} {write : α → Json} {values : List α}
    (h : ∀ value ∈ values, readBack decode levels (write value) = some value) :
    readBack (list decode) (levels + 1) (.array (values.map write)) = some values :=
  (readBack_list h).trans ((List.mapM_pure (m := Option)).trans (congrArg some values.map_id))

/-! ## Dictionaries -/

theorem toOption_entries {decode : Decoder α} {write : α → Json} {values : Dict α}
    (h : ∀ entry ∈ values, readBack decode levels (write entry.2) = some entry.2) :
    (entries decode levels (fieldDrafts (values.map fun entry => (entry.1, write entry.2)))).toOption =
      some values := by
  induction values with
  | nil => rfl
  | cons entry rest ih =>
    have hrest := ih fun other hmem => h other (.tail _ hmem)
    have hvalue := h entry List.mem_cons_self
    rw [List.map_cons, fieldDrafts, entries, toOption_bind, toOption_inside, ← readBack, hvalue]
    show (Except.toOption (_ >>= _)) = _
    rw [toOption_bind, hrest]
    rfl

/-- A dictionary is read back value by value. -/
theorem readBack_dict {decode : Decoder α} {write : α → Json} {values : Dict α}
    (hnodup : (Dict.keys values).Nodup)
    (h : ∀ entry ∈ values, readBack decode levels (write entry.2) = some entry.2) :
    readBack (dict decode) (levels + 1) (.object (values.map fun entry => (entry.1, write entry.2))) =
      some values := by
  rw [readBack, draft, dict, toOption_bind, toOption_entries h]
  exact congrArg some (Dict.ofEntries_of_nodup hnodup)

/-! ## Records -/

/-- Enters the value of one entry into a record. -/
def enterEntry (fields : List (RecordField ρ)) (levels : Nat) (record : ρ) (entry : String × Json) :
    Option ρ :=
  (fields.find? fun field => field.name == entry.1).bind fun field =>
    (field.enter record levels entry.2.draft).toOption

@[simp] theorem name_required (key : String) (decode : Decoder α) (set : ρ → α → ρ) :
    (RecordField.required key decode set).name = key := rfl

@[simp] theorem name_preset (key : String) (decode : Decoder α) (set : ρ → α → ρ) :
    (RecordField.preset key decode set).name = key := rfl

@[simp] theorem name_nullable (key : String) (decode : Decoder α) (set : ρ → Option α → ρ) :
    (RecordField.nullable key decode set).name = key := rfl

@[simp] theorem absence_required (key : String) (decode : Decoder α) (set : ρ → α → ρ) :
    (RecordField.required key decode set).absence = .refused := rfl

@[simp] theorem absence_preset (key : String) (decode : Decoder α) (set : ρ → α → ρ) :
    (RecordField.preset key decode set).absence = .preset := rfl

@[simp] theorem absence_nullable (key : String) (decode : Decoder α) (set : ρ → Option α → ρ) :
    (RecordField.nullable key decode set).absence = .empty := rfl

/-- Whether an entry belongs to a field. -/
def isOwn (fields : List (RecordField ρ)) (entry : String × Json) : Bool :=
  (fields.find? fun field => field.name == entry.1).isSome

variable {fields : List (RecordField ρ)} {keep : Bool} {entries : List (String × Json)}

theorem isOwn_iff {entry : String × Json} :
    isOwn fields entry = true ↔ entry.1 ∈ fields.map RecordField.name := by
  simp [isOwn, List.mem_map]

theorem find?_of_not_isOwn {entry : String × Json} (h : isOwn fields entry = false) :
    fields.find? (fun field => field.name == entry.1) = none := by
  simpa [isOwn] using h

/-- The step of a walk at an entry that belongs to a field not met before. -/
theorem toOption_walk_own {done : Walk ρ} {entry : String × Json} (hown : isOwn fields entry = true)
    (hnew : entry.1 ∉ done.seen) :
    (walk fields keep levels done (fieldDrafts (entry :: entries))).toOption =
      (enterEntry fields levels done.record entry).bind fun record =>
        (walk fields keep levels { done with record, seen := entry.1 :: done.seen }
          (fieldDrafts entries)).toOption := by
  obtain ⟨key, value⟩ := entry
  obtain ⟨field, hfield⟩ := Option.isSome_iff_exists.1 hown
  have hunseen : done.seen.contains key = false := by simpa using hnew
  rw [fieldDrafts, walk, enterEntry, hfield]
  dsimp only
  rw [hunseen, if_neg Bool.false_ne_true, toOption_bind, toOption_inside]
  rfl

/-- The step of a walk at an entry that belongs to no field and is asked for. -/
theorem walk_foreign {done : Walk ρ} {entry : String × Json} (hown : isOwn fields entry = false)
    (hvalue : (entry.2.draft.json? levels).isSome = true) :
    walk fields true levels done (fieldDrafts (entry :: entries)) =
      walk fields true levels { done with others := done.others ++ [(entry.1, entry.2.draft)] }
        (fieldDrafts entries) := by
  obtain ⟨key, value⟩ := entry
  rw [fieldDrafts, walk.eq_def]
  dsimp only
  rw [find?_of_not_isOwn hown]
  dsimp only
  rw [if_pos rfl, if_pos hvalue]

/-- A walk over entries, no two of which belong to one field.  Those that belong to none have to be
asked for. -/
theorem toOption_walk {done : Walk ρ} (hnodup : (Dict.keys (entries.filter (isOwn fields))).Nodup)
    (hnew : ∀ key ∈ Dict.keys (entries.filter (isOwn fields)), key ∉ done.seen)
    (hothers : ∀ entry ∈ entries, isOwn fields entry = false →
      keep = true ∧ (entry.2.draft.json? levels).isSome = true) :
    (walk fields keep levels done (fieldDrafts entries)).toOption =
      ((entries.filter (isOwn fields)).foldlM (enterEntry fields levels) done.record).map fun record =>
        { record, seen := (Dict.keys (entries.filter (isOwn fields))).reverse ++ done.seen
          others := done.others ++ (entries.filter fun entry => !isOwn fields entry).map fun entry =>
            (entry.1, entry.2.draft) } := by
  induction entries generalizing done with
  | nil => simp [walk, fieldDrafts, Dict.keys, Except.toOption]
  | cons entry rest ih =>
    have hrest : ∀ other ∈ rest, isOwn fields other = false →
        keep = true ∧ (other.2.draft.json? levels).isSome = true :=
      fun other hmem => hothers other (.tail _ hmem)
    cases hown : isOwn fields entry with
    | true =>
      rw [List.filter_cons_of_pos hown] at hnodup hnew ⊢
      obtain ⟨hkey, hunique⟩ := List.nodup_cons.1 hnodup
      rw [List.filter_cons_of_neg (by simp [hown]), List.foldlM_cons,
        toOption_walk_own hown (hnew _ List.mem_cons_self)]
      cases enterEntry fields levels done.record entry with
      | none => rfl
      | some record =>
        refine (ih hunique (fun other hmem => ?_) hrest).trans ?_
        · rintro (_ | ⟨_, hseen⟩)
          · exact hkey hmem
          · exact hnew other (.tail _ hmem) hseen
        · simp [Dict.keys]
    | false =>
      obtain ⟨rfl, hvalue⟩ := hothers entry List.mem_cons_self hown
      rw [List.filter_cons_of_neg (by simp [hown])] at hnodup hnew ⊢
      rw [walk_foreign hown hvalue, List.filter_cons_of_pos (by simp [hown])]
      exact (ih hnodup (by exact hnew) hrest).trans (by simp)

/-- An entry that is asked for but has no value. -/
theorem toOption_walk_eq_none {done : Walk ρ} {entry : String × Json} (hmem : entry ∈ entries)
    (hown : isOwn fields entry = false) (hvalue : entry.2.draft.json? levels = none) :
    (walk fields true levels done (fieldDrafts entries)).toOption = none := by
  induction entries generalizing done with
  | nil => cases hmem
  | cons first rest ih =>
    obtain ⟨key, value⟩ := first
    rw [fieldDrafts, walk.eq_def]
    dsimp only
    rcases List.mem_cons.1 hmem with rfl | hmem
    · rw [find?_of_not_isOwn hown, hvalue]
      rfl
    · split
      · split
        · rfl
        · rw [toOption_bind]
          exact Option.bind_eq_none_iff.2 fun record _ => ih hmem
      · rw [if_pos rfl]
        split
        · exact ih hmem
        · rfl

/-- **A record is read back** by entering the values that belong to its fields, if no two belong to one
field and what must be there is there. -/
theorem toOption_fromObject {blank : ρ}
    (hnodup : (Dict.keys (entries.filter (isOwn fields))).Nodup)
    (hrequired : ∀ field ∈ fields, field.absence = .refused → field.name ∈ Dict.keys entries)
    (hothers : ∀ entry ∈ entries, isOwn fields entry = false →
      keep = true ∧ (entry.2.draft.json? levels).isSome = true) :
    (fromObject blank fields keep (levels + 1) (draft (.object entries))).toOption =
      ((entries.filter (isOwn fields)).foldlM (enterEntry fields levels) blank).map fun record =>
        (record, (entries.filter fun entry => !isOwn fields entry).map fun entry =>
          (entry.1, entry.2.draft)) := by
  have hcomplete :
      complete fields ((Dict.keys (entries.filter (isOwn fields))).reverse ++ []) = true := by
    refine List.all_eq_true.2 fun field hfield => ?_
    by_cases habsence : field.absence = .refused
    · obtain ⟨entry, hentry, hname⟩ := List.mem_map.1 (hrequired field hfield habsence)
      have hown : isOwn fields entry = true := isOwn_iff.2 (List.mem_map.2 ⟨field, hfield, hname.symm⟩)
      have hseen : field.name ∈ Dict.keys (entries.filter (isOwn fields)) :=
        List.mem_map.2 ⟨entry, List.mem_filter.2 ⟨hentry, hown⟩, hname⟩
      simpa [habsence] using hseen
    · simp [habsence]
  rw [draft, fromObject, toOption_bind, toOption_walk hnodup (fun _ _ => List.not_mem_nil) hothers]
  cases (entries.filter (isOwn fields)).foldlM (enterEntry fields levels) blank with
  | none => rfl
  | some record =>
    show (if complete fields ((Dict.keys (entries.filter (isOwn fields))).reverse ++ []) then _
      else _ : Except _ _).toOption = _
    rw [hcomplete]
    rfl

/-- A record is not read if an entry that is asked for has no value. -/
theorem toOption_fromObject_eq_none {blank : ρ} {entry : String × Json} (hmem : entry ∈ entries)
    (hforeign : entry.1 ∉ fields.map RecordField.name) (hvalue : entry.2.draft.json? levels = none) :
    (fromObject blank fields true (levels + 1) (draft (.object entries))).toOption = none := by
  have hown : isOwn fields entry = false := Bool.eq_false_iff.2 (mt isOwn_iff.1 hforeign)
  rw [draft, fromObject, toOption_bind, toOption_walk_eq_none hmem hown hvalue]
  rfl

/-- A record whose entries all belong to its fields. -/
theorem readBack_record {blank : ρ} (hkeys : (Dict.keys entries).Sublist (fields.map RecordField.name))
    (hnames : (fields.map RecordField.name).Nodup)
    (hrequired : ∀ field ∈ fields, field.absence = .refused → field.name ∈ Dict.keys entries) :
    readBack (record blank fields) (levels + 1) (.object entries) =
      entries.foldlM (enterEntry fields levels) blank := by
  have hown : ∀ entry ∈ entries, isOwn fields entry = true := fun entry hmem =>
    isOwn_iff.2 (hkeys.subset (List.mem_map_of_mem hmem))
  have hfilter : entries.filter (isOwn fields) = entries := List.filter_eq_self.2 hown
  show ((fromObject blank fields false (levels + 1) (draft (.object entries))).map Prod.fst).toOption = _
  rw [toOption_map, toOption_fromObject (hfilter.symm ▸ hkeys.nodup hnames) hrequired
    fun entry hmem hforeign => absurd (hown entry hmem) (by simp [hforeign]), hfilter, Option.map_map]
  exact congrFun Option.map_id _

/-! ## Entering entries one after the other -/

/-- The first field with the name reads its values with the decoder and puts them into the record. -/
abbrev HasField (fields : List (RecordField ρ)) (key : String) (decode : Decoder α)
    (set : ρ → α → ρ) : Prop :=
  (fields.find? fun field => field.name == key).map RecordField.enter =
    some fun record levels draft => (decode levels draft).map (set record)

section

variable {key : String} {decode : Decoder α}

theorem isOwn_of_hasField {set : ρ → α → ρ} (h : HasField fields key decode set) (value : Json) :
    isOwn fields (key, value) = true := by
  obtain ⟨field, hfield, _⟩ := Option.map_eq_some_iff.1 h
  exact Option.isSome_of_eq_some hfield

/-- The value of the first entry is entered before the others. -/
theorem foldlM_cons_entry {set : ρ → α → ρ} (h : HasField fields key decode set) (record : ρ)
    (value : Json) : ((key, value) :: entries).foldlM (enterEntry fields levels) record =
      (readBack decode levels value).bind fun inner =>
        entries.foldlM (enterEntry fields levels) (set record inner) := by
  obtain ⟨field, hfield, henter⟩ := Option.map_eq_some_iff.1 h
  have hentry : enterEntry fields levels record (key, value) =
      (readBack decode levels value).map (set record) := by
    rw [enterEntry, hfield, Option.bind_some, henter, toOption_map]
    rfl
  rw [List.foldlM_cons, hentry]
  cases readBack decode levels value <;> rfl

/-- A single entry. -/
theorem foldlM_entry {set : ρ → α → ρ} (h : HasField fields key decode set) (record : ρ)
    (value : Json) : [(key, value)].foldlM (enterEntry fields levels) record =
      (readBack decode levels value).map (set record) := by
  rw [foldlM_cons_entry h]
  cases readBack decode levels value <;> rfl

/-- An entry that may be left out. -/
theorem foldlM_optionalEntry {set : ρ → Option α → ρ} {write : α → Json} {value : Option α}
    {record : ρ} (hfield : HasField fields key (optional decode) set)
    (h : ∀ inner, value = some inner → write inner ≠ .null ∧
      readBack decode levels (write inner) = some inner)
    (hblank : set record none = record) :
    (optionalEntry key (value.map write)).foldlM (enterEntry fields levels) record =
      some (set record value) := by
  cases value with
  | none => exact congrArg some hblank.symm
  | some inner =>
    obtain ⟨hne, hread⟩ := h inner rfl
    refine (foldlM_entry hfield record (write inner)).trans ?_
    rw [readBack_optional hne, hread]
    rfl

/-- An entry that is left out when its list is empty. -/
theorem foldlM_listEntry {set : ρ → List α → ρ} {write : α → Json} {values : List α} {record : ρ}
    (hfield : HasField fields key (list decode) set)
    (h : values ≠ [] → readBack (list decode) levels (.array (values.map write)) = some values)
    (hblank : set record [] = record) :
    (listEntry key (values.map write)).foldlM (enterEntry fields levels) record =
      some (set record values) := by
  cases values with
  | nil => exact congrArg some hblank.symm
  | cons value rest =>
    refine (foldlM_entry hfield record _).trans ?_
    rw [h (List.cons_ne_nil _ _)]
    rfl

theorem keys_optionalEntry (key : String) (value : Option Json) :
    (Dict.keys (optionalEntry key value)).Sublist [key] := by
  cases value with
  | none => exact List.nil_sublist _
  | some _ => exact .refl _

theorem keys_listEntry (key : String) (values : List Json) :
    (Dict.keys (listEntry key values)).Sublist [key] := by
  rw [listEntry]
  split
  · exact List.nil_sublist _
  · exact .refl _

end

/-- The entries lead from one record to the next.  Those that belong to fields have some of the names, in
order; the others have a value. -/
structure Enters (fields : List (RecordField ρ)) (levels : Nat) (names : List String)
    (entries others : List (String × Json)) (record result : ρ) : Prop where
  keys : (Dict.keys (entries.filter (isOwn fields))).Sublist names
  entered : (entries.filter (isOwn fields)).foldlM (enterEntry fields levels) record = some result
  foreigners : (entries.filter fun entry => !isOwn fields entry) = others
  values : ∀ entry ∈ others, (entry.2.draft.json? levels).isSome = true

namespace Enters

variable {key : String} {decode : Decoder α} {record middle result : ρ} {names more : List String}

theorem append {first second others foreign : List (String × Json)}
    (hfirst : Enters fields levels names first others record middle)
    (hsecond : Enters fields levels more second foreign middle result) :
    Enters fields levels (names ++ more) (first ++ second) (others ++ foreign) record result where
  keys := by
    rw [List.filter_append, Dict.keys, List.map_append]
    exact hfirst.keys.append hsecond.keys
  entered := by
    rw [List.filter_append, List.foldlM_append, hfirst.entered]
    exact hsecond.entered
  foreigners := by rw [List.filter_append, hfirst.foreigners, hsecond.foreigners]
  values := List.forall_mem_append.2 ⟨hfirst.values, hsecond.values⟩

/-- Entries of one field or none. -/
theorem of_own (hown : ∀ entry ∈ entries, isOwn fields entry = true)
    (hkeys : (Dict.keys entries).Sublist names)
    (h : entries.foldlM (enterEntry fields levels) record = some result) :
    Enters fields levels names entries [] record result := by
  have hfilter : entries.filter (isOwn fields) = entries := List.filter_eq_self.2 hown
  refine ⟨?_, ?_, List.filter_eq_nil_iff.2 fun entry hmem => by simp [hown entry hmem],
    List.forall_mem_nil _⟩
  · rwa [hfilter]
  · rwa [hfilter]

theorem entry {set : ρ → α → ρ} {value : Json} {inner : α} (hfield : HasField fields key decode set)
    (h : readBack decode levels value = some inner) :
    Enters fields levels [key] [(key, value)] [] record (set record inner) :=
  of_own (List.forall_mem_singleton.2 (isOwn_of_hasField hfield value)) (.refl _) (by
    rw [foldlM_entry hfield, h, Option.map_some])

/-- An entry that may be left out. -/
theorem optional {set : ρ → Option α → ρ} {write : α → Json} {value : Option α}
    (hfield : HasField fields key (Decoder.optional decode) set)
    (h : ∀ inner, value = some inner → write inner ≠ .null ∧
      readBack decode levels (write inner) = some inner)
    (hblank : set record none = record) :
    Enters fields levels [key] (optionalEntry key (value.map write)) [] record (set record value) :=
  of_own (by cases value <;> simp [optionalEntry, isOwn_of_hasField hfield])
    (keys_optionalEntry _ _) (foldlM_optionalEntry hfield h hblank)

/-- An entry that is left out when its list is empty. -/
theorem list {set : ρ → List α → ρ} {write : α → Json} {values : List α}
    (hfield : HasField fields key (Decoder.list decode) set)
    (h : values ≠ [] → readBack (Decoder.list decode) levels (.array (values.map write)) = some values)
    (hblank : set record [] = record) :
    Enters fields levels [key] (listEntry key (values.map write)) [] record (set record values) :=
  of_own (by cases values <;> simp [listEntry, isOwn_of_hasField hfield])
    (keys_listEntry _ _) (foldlM_listEntry hfield h hblank)

/-- Entries that belong to no field. -/
theorem foreign (hforeign : ∀ entry ∈ entries, entry.1 ∉ fields.map RecordField.name)
    (hvalues : ∀ entry ∈ entries, (entry.2.draft.json? levels).isSome = true) :
    Enters fields levels [] entries entries record record := by
  have hnone : ∀ entry ∈ entries, isOwn fields entry = false := fun entry hmem =>
    Bool.eq_false_iff.2 (mt isOwn_iff.1 (hforeign entry hmem))
  have hfilter : entries.filter (isOwn fields) = [] :=
    List.filter_eq_nil_iff.2 fun entry hmem => by simp [hnone entry hmem]
  refine ⟨?_, ?_, List.filter_eq_self.2 fun entry hmem => by simp [hnone entry hmem], hvalues⟩
  · rw [hfilter]
    exact List.nil_sublist _
  · rw [hfilter]
    rfl

end Enters

section

variable {blank result value : ρ} {names : List String} {others : List (String × Json)}

/-- **A record is read back** if its entries lead from the blank record to it; entries that belong to no
field are handed on. -/
theorem fromObject_of_enters (h : Enters fields levels names entries others blank result)
    (hnodup : names.Nodup)
    (hrequired : ∀ field ∈ fields, field.absence = .refused → field.name ∈ Dict.keys entries) :
    (fromObject blank fields true (levels + 1) (draft (.object entries))).toOption =
      some (result, others.map fun entry => (entry.1, entry.2.draft)) := by
  have hvalues : ∀ entry ∈ entries, isOwn fields entry = false →
      true = true ∧ (entry.2.draft.json? levels).isSome = true := fun entry hmem hown =>
    ⟨rfl, h.values entry (h.foreigners ▸ List.mem_filter.2 ⟨hmem, by simp [hown]⟩)⟩
  rw [toOption_fromObject (h.keys.nodup hnodup) hrequired hvalues, h.entered, h.foreigners,
    Option.map_some]

/-- A record whose entries all belong to its fields. -/
theorem readBack_of_enters (h : Enters fields levels names entries others blank result)
    (hresult : result = value) (hothers : others = []) (hnodup : names.Nodup)
    (hrequired : ∀ field ∈ fields, field.absence = .refused → field.name ∈ Dict.keys entries) :
    readBack (record blank fields) (levels + 1) (.object entries) = some value := by
  subst hresult hothers
  have hown : ∀ entry ∈ entries, isOwn fields entry = true := by
    simpa using List.filter_eq_nil_iff.1 h.foreigners
  show ((fromObject blank fields false (levels + 1) (draft (.object entries))).map Prod.fst).toOption = _
  rw [toOption_map, toOption_fromObject (h.keys.nodup hnodup) hrequired
    fun entry hmem hforeign => absurd (hown entry hmem) (by simp [hforeign]), h.entered]
  rfl

end

end Decoder

end TypeSchema
