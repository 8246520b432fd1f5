import TypeSchema.Proofs.Json.Keys
import TypeSchema.Proofs.Json.Numerals
import TypeSchema.Proofs.Json.Strings

/-!
# Values are read back

`Json.draft` is the draft that a value without infinities is read as from its text
(**`Json.read_compact`**): the same value, with every number as it is read back from its own text.  The
reader counts down with every step it takes inward or onward, and starts from twice the length of the
text; an induction on the value shows that this is enough.
-/

set_option autoImplicit false

namespace TypeSchema

namespace Json

/-- The number is in the value. -/
inductive HasNumber (n : Number) : Json → Prop
  | here : HasNumber n (.number n)
  | item {items : List Json} {item : Json} (hmem : item ∈ items) (h : HasNumber n item) :
      HasNumber n (.array items)
  | field {fields : List (String × Json)} {entry : String × Json} (hmem : entry ∈ fields)
      (h : HasNumber n entry.2) : HasNumber n (.object fields)

/-- Every number in the value is one of those. -/
def AllNumbers (P : Number → Prop) (value : Json) : Prop :=
  ∀ n, value.HasNumber n → P n

/-- The value has no infinities in it, and nothing that is no number. -/
abbrev IsFinite (value : Json) : Prop :=
  value.AllNumbers Number.IsFinite

section

variable {P : Number → Prop}

@[simp] theorem allNumbers_null : Json.null.AllNumbers P := by
  rintro n ⟨⟩

@[simp] theorem allNumbers_bool (b : Bool) : (Json.bool b).AllNumbers P := by
  rintro n ⟨⟩

@[simp] theorem allNumbers_string (s : String) : (Json.string s).AllNumbers P := by
  rintro n ⟨⟩

@[simp] theorem allNumbers_number {n : Number} : (Json.number n).AllNumbers P ↔ P n := by
  constructor
  · exact fun h => h n .here
  · rintro h _ ⟨⟩
    exact h

@[simp] theorem allNumbers_array {items : List Json} :
    (Json.array items).AllNumbers P ↔ ∀ item ∈ items, item.AllNumbers P := by
  constructor
  · exact fun h item hmem n hn => h n (.item hmem hn)
  · rintro h n (_ | ⟨hmem, hn⟩)
    exact h _ hmem n hn

@[simp] theorem allNumbers_object {fields : List (String × Json)} :
    (Json.object fields).AllNumbers P ↔ ∀ entry ∈ fields, entry.2.AllNumbers P := by
  constructor
  · exact fun h entry hmem n hn => h n (.field hmem hn)
  · rintro h n (_ | _ | ⟨hmem, hn⟩)
    exact h _ hmem n hn

end

mutual

/-- What the text of a value is read as. -/
def draft : Json → Draft
  | .null => .null
  | .bool b => .bool b
  | .number n => .number n.reread?
  | .string s => .string (some s)
  | .array items => .array (itemDrafts items) true
  | .object fields => .object (fieldDrafts fields) true

/-- What the texts of items are read as. -/
def itemDrafts : List Json → List Draft
  | [] => []
  | item :: rest => draft item :: itemDrafts rest

/-- What the texts of entries are read as. -/
def fieldDrafts : List (String × Json) → List (Option String × Draft)
  | [] => []
  | (key, value) :: rest => (some key, draft value) :: fieldDrafts rest

end

theorem fieldDrafts_eq_map (fields : List (String × Json)) :
    fieldDrafts fields = fields.map fun entry => (some entry.1, draft entry.2) := by
  induction fields with
  | nil => rfl
  | cons entry rest ih => rw [fieldDrafts, ih, List.map_cons]

/-! ## What texts begin with -/

/-- The text of a number begins with a sign or a digit. -/
theorem numeral_begins {n : Number} (h : n.IsFinite) :
    ∃ c rest, numeral n = c :: rest ∧ (c = '-' ∨ c.isDigit = true) := by
  obtain ⟨literal, hvalid, htext⟩ := Number.exists_numeral h
  obtain ⟨first, more, hwhole⟩ := List.exists_cons_of_ne_nil hvalid.whole.1
  rw [htext, Numeral.text, hwhole]
  cases literal.negative with
  | true => exact ⟨_, _, rfl, .inl rfl⟩
  | false => exact ⟨_, _, rfl, .inr (hvalid.whole.2 first (hwhole ▸ List.mem_cons_self))⟩

/-- A value begins with a character that is neither blank nor the end of a list. -/
def Begins (cs : List Char) : Prop :=
  ∃ c rest, cs = c :: rest ∧ Draft.isSpace c = false ∧ c ≠ ']'

theorem begins_chars {value : Json} (h : value.IsFinite) : Begins value.chars := by
  cases value with
  | null => exact ⟨_, _, rfl, by decide, by decide⟩
  | bool b => cases b <;> exact ⟨_, _, rfl, by decide, by decide⟩
  | number n =>
    obtain ⟨c, rest, htext, hc⟩ := numeral_begins (h n .here)
    refine ⟨c, rest, htext, ?_, ?_⟩
    · rcases hc with rfl | hdigit
      · decide
      · rw [Draft.isSpace]
        simp only [Bool.or_eq_false_iff, beq_eq_false_iff_ne]
        refine ⟨⟨⟨?_, ?_⟩, ?_⟩, ?_⟩ <;> rintro rfl <;> cases hdigit
    · rintro rfl
      rcases hc with hminus | hdigit
      · cases hminus
      · cases hdigit
  | string s => exact ⟨_, _, rfl, by decide, by decide⟩
  | array items => exact ⟨_, _, rfl, by decide, by decide⟩
  | object fields => exact ⟨_, _, rfl, by decide, by decide⟩

theorem skipSpace_cons {c : Char} (h : Draft.isSpace c = false) (cs : List Char) :
    Draft.skipSpace (c :: cs) = c :: cs := by
  rw [Draft.skipSpace, List.dropWhile_cons_of_neg (by simp [h])]

theorem Begins.skipSpace {cs : List Char} (h : Begins cs) (rest : List Char) :
    Draft.skipSpace (cs ++ rest) = cs ++ rest := by
  obtain ⟨c, more, rfl, hspace, _⟩ := h
  exact skipSpace_cons hspace (more ++ rest)

theorem itemChars_cons_cons (first second : Json) (rest : List Json) :
    itemChars (first :: second :: rest) = first.chars ++ ',' :: itemChars (second :: rest) :=
  rfl

theorem fieldChars_cons_cons (key : String) (value : Json) (second : String × Json)
    (rest : List (String × Json)) : fieldChars ((key, value) :: second :: rest) =
      quoted key ++ ':' :: (value.chars ++ ',' :: fieldChars (second :: rest)) :=
  rfl

theorem begins_itemChars {item : Json} {rest : List Json} (h : item.IsFinite) :
    Begins (itemChars (item :: rest)) := by
  obtain ⟨c, more, htext, hc⟩ := begins_chars h
  cases rest with
  | nil => exact ⟨c, more, htext, hc⟩
  | cons second rest => exact ⟨c, _, by rw [itemChars_cons_cons, htext]; rfl, hc⟩

/-- Entries begin with the quote of the first key. -/
theorem exists_fieldChars_eq (entry : String × Json) (fields : List (String × Json)) :
    ∃ more, fieldChars (entry :: fields) = '\x22' :: more := by
  cases fields <;> exact ⟨_, rfl⟩

/-! ## Reading -/

open Draft

/-- A list or an object may go on after a value, or end. -/
theorem ends_cons {c : Char} {rest : List Char} (h : c = ',' ∨ c = ']' ∨ c = '\x7d') :
    Numeral.Ends (c :: rest) := by
  rintro _ ⟨⟩
  rcases h with rfl | rfl | rfl <;> decide

theorem readValue_number {n : Number} (h : n.IsFinite) (fuel : Nat) {rest : List Char}
    (hrest : Numeral.Ends rest) :
    readValue (fuel + 1) (numeral n ++ rest) = (.number n.reread?, some rest) := by
  have hread := Number.readNumber_numeral h hrest
  have hbegins : Begins (numeral n) := begins_chars (allNumbers_number.2 h)
  obtain ⟨c, more, htext, hc⟩ := numeral_begins h
  have hne : ∀ other : Char, other ≠ '-' → other.isDigit = false → c ≠ other := by
    rintro other hminus hdigit rfl
    rcases hc with rfl | hc
    · exact hminus rfl
    · rw [hdigit] at hc
      cases hc
  rw [readValue, hbegins.skipSpace, htext, List.cons_append]
  rw [htext, List.cons_append] at hread
  simp [hne, hc, hread]

/-- So many steps are enough for texts of half their length. -/
structure ReadsWithin (fuel : Nat) : Prop where
  value : ∀ (value : Json) (rest : List Char), value.IsFinite → Numeral.Ends rest →
    2 * value.chars.length ≤ fuel → readValue fuel (value.chars ++ rest) = (value.draft, some rest)
  items : ∀ (item : Json) (items : List Json) (rest : List Char),
    (∀ value ∈ item :: items, value.IsFinite) →
      2 * (itemChars (item :: items)).length < fuel →
      readItems fuel (itemChars (item :: items) ++ ']' :: rest) =
        (itemDrafts (item :: items), some rest)
  fields : ∀ (entry : String × Json) (fields : List (String × Json)) (rest : List Char),
    (∀ field ∈ entry :: fields, field.2.IsFinite) →
      2 * (fieldChars (entry :: fields)).length < fuel →
      readFields fuel (fieldChars (entry :: fields) ++ '\x7d' :: rest) =
        (fieldDrafts (entry :: fields), some rest)

theorem readsWithin_zero : ReadsWithin 0 where
  value value rest hfinite _ hfuel := by
    obtain ⟨c, more, htext, _⟩ := begins_chars hfinite
    simp [htext] at hfuel
  items _ _ _ _ hfuel := absurd hfuel (Nat.not_lt_zero _)
  fields _ _ _ _ hfuel := absurd hfuel (Nat.not_lt_zero _)

namespace ReadsWithin

variable {fuel : Nat} (h : ReadsWithin fuel)

include h

theorem step_array {items : List Json} {rest : List Char} (hfinite : (Json.array items).IsFinite)
    (hfuel : 2 * (chars (.array items)).length ≤ fuel + 1) :
    readValue (fuel + 1) (chars (.array items) ++ rest) = (draft (.array items), some rest) := by
  cases items with
  | nil => rfl
  | cons item items =>
    have hitems : ∀ value ∈ item :: items, value.IsFinite := allNumbers_array.1 hfinite
    have hbegins : Begins (itemChars (item :: items)) :=
      begins_itemChars (hitems item List.mem_cons_self)
    have hread := h.items item items rest hitems (by simp [chars] at hfuel; omega)
    have hskip := hbegins.skipSpace (']' :: rest)
    have htext : chars (.array (item :: items)) ++ rest =
        '[' :: (itemChars (item :: items) ++ ']' :: rest) := by simp [chars]
    obtain ⟨c, more, hitem, _, hend⟩ := hbegins
    rw [hitem, List.cons_append] at hskip hread
    rw [htext, readValue, skipSpace_cons (show isSpace '[' = false by decide), hitem,
      List.cons_append]
    simp [hskip, hread, hend, draft]

theorem step_object {fields : List (String × Json)} {rest : List Char}
    (hfinite : (Json.object fields).IsFinite)
    (hfuel : 2 * (chars (.object fields)).length ≤ fuel + 1) :
    readValue (fuel + 1) (chars (.object fields) ++ rest) = (draft (.object fields), some rest) := by
  cases fields with
  | nil => rfl
  | cons entry fields =>
    have hread := h.fields entry fields rest (allNumbers_object.1 hfinite)
      (by simp [chars] at hfuel; omega)
    have htext : chars (.object (entry :: fields)) ++ rest =
        '\x7b' :: (fieldChars (entry :: fields) ++ '\x7d' :: rest) := by simp [chars]
    obtain ⟨more, hentry⟩ := exists_fieldChars_eq entry fields
    rw [hentry, List.cons_append] at hread
    rw [htext, readValue, skipSpace_cons (show isSpace '\x7b' = false by decide), hentry,
      List.cons_append]
    simp [skipSpace_cons (show isSpace '\x22' = false by decide), hread, draft]

theorem step_value {value : Json} {rest : List Char} (hfinite : value.IsFinite)
    (hrest : Numeral.Ends rest) (hfuel : 2 * value.chars.length ≤ fuel + 1) :
    readValue (fuel + 1) (value.chars ++ rest) = (value.draft, some rest) := by
  cases value with
  | null => rfl
  | bool b => cases b <;> rfl
  | number n => exact readValue_number (hfinite n .here) fuel hrest
  | string s =>
    have hread := readString_quoted s rest
    rw [chars, quoted, readValue]
    simp [skipSpace, isSpace, hread, draft]
  | array items => exact h.step_array hfinite hfuel
  | object fields => exact h.step_object hfinite hfuel

theorem step_items {item : Json} {items : List Json} {rest : List Char}
    (hfinite : ∀ value ∈ item :: items, value.IsFinite)
    (hfuel : 2 * (itemChars (item :: items)).length < fuel + 1) :
    readItems (fuel + 1) (itemChars (item :: items) ++ ']' :: rest) =
      (itemDrafts (item :: items), some rest) := by
  have hitem := hfinite item List.mem_cons_self
  cases items with
  | nil =>
    have hread := h.value item (']' :: rest) hitem (ends_cons (.inr (.inl rfl)))
      (by simp [itemChars] at hfuel; omega)
    rw [itemChars, readItems, hread]
    rfl
  | cons second items =>
    have hsecond : Begins (itemChars (second :: items)) :=
      begins_itemChars (hfinite second (by simp))
    have hread := h.value item (',' :: (itemChars (second :: items) ++ ']' :: rest)) hitem
      (ends_cons (.inl rfl)) (by simp [itemChars_cons_cons] at hfuel; omega)
    have hmore := h.items second items rest (fun value hmem => hfinite value (.tail _ hmem))
      (by simp [itemChars_cons_cons] at hfuel; omega)
    have hskip := hsecond.skipSpace (']' :: rest)
    obtain ⟨c, more, htext, _, hend⟩ := hsecond
    rw [itemChars_cons_cons, List.append_assoc, List.cons_append, readItems, hread]
    rw [htext, List.cons_append] at hskip hmore ⊢
    simp [skipSpace_cons (show isSpace ',' = false by decide), hskip, hmore, hend,
      itemDrafts]

theorem step_fields {entry : String × Json} {fields : List (String × Json)} {rest : List Char}
    (hfinite : ∀ field ∈ entry :: fields, field.2.IsFinite)
    (hfuel : 2 * (fieldChars (entry :: fields)).length < fuel + 1) :
    readFields (fuel + 1) (fieldChars (entry :: fields) ++ '\x7d' :: rest) =
      (fieldDrafts (entry :: fields), some rest) := by
  obtain ⟨key, value⟩ := entry
  have hvalue := hfinite _ List.mem_cons_self
  cases fields with
  | nil =>
    have hkey := readString_quoted key (':' :: (value.chars ++ '\x7d' :: rest))
    have hread := h.value value ('\x7d' :: rest) hvalue (ends_cons (.inr (.inr rfl)))
      (by simp [fieldChars] at hfuel; omega)
    simp [fieldChars, quoted, readFields, hkey,
      skipSpace_cons (show isSpace ':' = false by decide), hread,
      skipSpace_cons (show isSpace '\x7d' = false by decide), fieldDrafts]
  | cons second fields =>
    have hkey := readString_quoted key
      (':' :: (value.chars ++ ',' :: (fieldChars (second :: fields) ++ '\x7d' :: rest)))
    have hread := h.value value (',' :: (fieldChars (second :: fields) ++ '\x7d' :: rest)) hvalue
      (ends_cons (.inl rfl)) (by simp [fieldChars_cons_cons] at hfuel; omega)
    have hmore := h.fields second fields rest (fun field hmem => hfinite field (.tail _ hmem))
      (by simp [fieldChars_cons_cons] at hfuel; omega)
    obtain ⟨more, htext⟩ := exists_fieldChars_eq second fields
    rw [htext, List.cons_append] at hkey hread hmore
    simp [fieldChars_cons_cons, quoted, readFields, hkey, htext,
      skipSpace_cons (show isSpace ':' = false by decide), hread,
      skipSpace_cons (show isSpace ',' = false by decide),
      skipSpace_cons (show isSpace '\x22' = false by decide), hmore, fieldDrafts]

end ReadsWithin

/-- Every number of steps is enough for texts of half its length. -/
theorem readsWithin (fuel : Nat) : ReadsWithin fuel := by
  induction fuel with
  | zero => exact readsWithin_zero
  | succ fuel ih =>
    exact ⟨fun _ _ => ih.step_value, fun _ _ _ => ih.step_items, fun _ _ _ => ih.step_fields⟩

/-- **A value is read back** from its text: the same value, with every number as it is read back. -/
theorem read_compact {value : Json} (h : value.IsFinite) :
    Draft.read value.compact = (value.draft, some []) := by
  have hread := (readsWithin (2 * value.chars.length + 2)).value value [] h Numeral.ends_nil (by omega)
  rw [List.append_nil] at hread
  rw [Draft.read, compact, String.toList_ofList, hread]

/-! ## Free-form values

A value is taken from its draft if all its numbers are, and if it does not nest too deep.  It is the
value itself if no number changes and no object repeats a key. -/

/-- So many levels of arrays and objects are enough for the value. -/
def NestsWithin : Nat → Json → Prop
  | 0, .array _ => False
  | 0, .object _ => False
  | levels + 1, .array items => ∀ item ∈ items, NestsWithin levels item
  | levels + 1, .object fields => ∀ entry ∈ fields, NestsWithin levels entry.2
  | _, _ => True

theorem isSome_jsonItems? {levels : Nat} {items : List Json}
    (h : ∀ item ∈ items, (item.draft.json? levels).isSome = true) :
    (jsonItems? levels (itemDrafts items)).isSome = true := by
  induction items with
  | nil => rfl
  | cons item rest ih =>
    obtain ⟨value, hvalue⟩ := Option.isSome_iff_exists.1 (h item List.mem_cons_self)
    obtain ⟨values, hvalues⟩ := Option.isSome_iff_exists.1 (ih fun other hmem => h other (.tail _ hmem))
    rw [itemDrafts, jsonItems?, hvalue, hvalues]
    rfl

theorem isSome_jsonFields? {levels : Nat} {fields : List (String × Json)}
    (h : ∀ entry ∈ fields, (entry.2.draft.json? levels).isSome = true) :
    (jsonFields? levels (fieldDrafts fields)).isSome = true := by
  induction fields with
  | nil => rfl
  | cons entry rest ih =>
    obtain ⟨value, hvalue⟩ := Option.isSome_iff_exists.1 (h entry List.mem_cons_self)
    obtain ⟨values, hvalues⟩ := Option.isSome_iff_exists.1 (ih fun other hmem => h other (.tail _ hmem))
    rw [fieldDrafts, jsonFields?, hvalue, hvalues]
    rfl

/-- A value is taken if its numbers are. -/
theorem isSome_json? {levels : Nat} {value : Json} (hlevels : value.NestsWithin levels)
    (hread : value.AllNumbers fun n => n.reread?.isSome = true) :
    (value.draft.json? levels).isSome = true := by
  induction levels generalizing value with
  | zero => cases value <;> simp_all [draft, json?, NestsWithin]
  | succ levels ih =>
    cases value with
    | array items =>
      have hitems := isSome_jsonItems? fun item hmem => ih (hlevels item hmem)
        (allNumbers_array.1 hread item hmem)
      simpa [draft, json?] using hitems
    | object fields =>
      have hfields := isSome_jsonFields? fun entry hmem => ih (hlevels entry hmem)
        (allNumbers_object.1 hread entry hmem)
      simpa [draft, json?] using hfields
    | number n => simpa [draft, json?] using hread
    | _ => rfl

theorem jsonItems?_itemDrafts {levels : Nat} {items : List Json}
    (h : ∀ item ∈ items, item.draft.json? levels = some item) :
    jsonItems? levels (itemDrafts items) = some items := by
  induction items with
  | nil => rfl
  | cons item rest ih =>
    rw [itemDrafts, jsonItems?, h item List.mem_cons_self, ih fun other hmem => h other (.tail _ hmem)]
    rfl

theorem jsonFields?_fieldDrafts {levels : Nat} {fields : List (String × Json)}
    (h : ∀ entry ∈ fields, entry.2.draft.json? levels = some entry.2) :
    jsonFields? levels (fieldDrafts fields) = some fields := by
  induction fields with
  | nil => rfl
  | cons entry rest ih =>
    rw [fieldDrafts, jsonFields?, h entry List.mem_cons_self, ih fun other hmem => h other (.tail _ hmem)]
    rfl

/-- **A free-form value is read back** if all its numbers are. -/
theorem json?_draft {levels : Nat} {value : Json} (hlevels : value.NestsWithin levels)
    (hkeys : value.HasUniqueKeys) (hstable : value.AllNumbers Number.IsStable) :
    value.draft.json? levels = some value := by
  induction levels generalizing value with
  | zero => cases value <;> simp_all [draft, json?, NestsWithin, Number.IsStable]
  | succ levels ih =>
    cases value with
    | array items =>
      have hitems := jsonItems?_itemDrafts fun item hmem => ih (hlevels item hmem)
        (hasUniqueKeys_array.1 hkeys item hmem) (allNumbers_array.1 hstable item hmem)
      simp [draft, json?, hitems]
    | object fields =>
      obtain ⟨hown, hvalues⟩ := hasUniqueKeys_object.1 hkeys
      have hfields := jsonFields?_fieldDrafts fun entry hmem => ih (hlevels entry hmem)
        (hvalues entry hmem) (allNumbers_object.1 hstable entry hmem)
      simp [draft, json?, hfields, Dict.ofEntries_of_nodup hown]
    | number n =>
      have hn : n.reread? = some n := allNumbers_number.1 hstable
      simp [draft, json?, hn]
    | _ => rfl

end Json

end TypeSchema
