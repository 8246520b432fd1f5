import Mathlib.Data.List.Forall2
import Mathlib.Data.Option.Defs
import TypeSchema.Dict

/-!
# What dictionaries hold

Nothing gets into a dictionary but what is written into it: the entries of what `insert`, `erase`,
`extend` and `ofEntries` leave are among those that were there and those that were given.  Statements
about all entries of a definition or of a document are carried along by these, and the lookups of a
registry or of the table of references by `get?_insert` and `mem_of_get?`.
-/

set_option autoImplicit false

namespace TypeSchema.Dict

universe u v

variable {α : Type u} {d : Dict α} {key other : String} {value : α} {entry : String × α}

/-! ## Lookups -/

/-- What is found under a key is an entry. -/
theorem mem_of_get? (h : get? d key = some value) : (key, value) ∈ d := by
  induction d with
  | nil => simp at h
  | cons head rest ih =>
    obtain ⟨k, v⟩ := head
    by_cases hk : k = key
    · subst hk
      have hv : v = value := by simpa [get?] using h
      simp [hv]
    · have hrest : get? rest key = some value := by simpa [get?, hk] using h
      exact List.mem_cons_of_mem _ (ih hrest)

theorem contains_iff_mem_keys : contains d key = true ↔ key ∈ keys d := by
  induction d with
  | nil => simp [contains, keys]
  | cons head rest ih =>
    obtain ⟨k, v⟩ := head
    by_cases hk : k = key
    · simp [contains, get?, keys, hk]
    · have hne : ¬key = k := fun h => hk h.symm
      simpa [contains, get?, keys, hk, hne] using ih

theorem get?_eq_none_of_not_contains (h : ¬contains d key = true) : get? d key = none := by
  simpa [contains] using h

theorem contains_of_get? (h : get? d key = some value) : contains d key = true := by
  simp [contains, h]

/-! ## Entries -/

theorem mem_of_mem_insert (h : entry ∈ insert d key value) : entry = (key, value) ∨ entry ∈ d := by
  induction d with
  | nil => exact .inl (by simpa [insert] using h)
  | cons head rest ih =>
    obtain ⟨k, v⟩ := head
    by_cases hk : k = key
    · subst hk
      rcases List.mem_cons.1 (by simpa [insert] using h) with h | h
      · exact .inl h
      · exact .inr (List.mem_cons_of_mem _ h)
    · rcases List.mem_cons.1 (by simpa [insert, hk] using h) with h | h
      · exact .inr (by simp [h])
      · exact (ih h).imp_right (List.mem_cons_of_mem _)

theorem mem_of_mem_insertNew (h : entry ∈ insertNew d key value) :
    entry = (key, value) ∨ entry ∈ d := by
  rw [insertNew] at h
  split at h
  · exact .inr h
  · exact mem_of_mem_insert h

theorem erase_sublist (d : Dict α) (key : String) : (erase d key).Sublist d := by
  induction d with
  | nil => exact .slnil
  | cons head rest ih =>
    obtain ⟨k, v⟩ := head
    rw [erase]
    split
    · exact List.sublist_cons_self _ rest
    · exact ih.cons_cons _

theorem mem_of_mem_erase (h : entry ∈ erase d key) : entry ∈ d :=
  (erase_sublist d key).subset h

theorem mem_of_mem_extend {more : List (String × α)} (h : entry ∈ extend d more) :
    entry ∈ d ∨ entry ∈ more := by
  induction more generalizing d with
  | nil => exact .inl h
  | cons first rest ih =>
    rcases ih (d := insert d first.1 first.2) h with h | h
    · rcases mem_of_mem_insert h with h | h
      · exact .inr (by simp [h])
      · exact .inl h
    · exact .inr (List.mem_cons_of_mem _ h)

theorem mem_of_mem_ofEntries {entries : List (String × α)} (h : entry ∈ ofEntries entries) :
    entry ∈ entries := by
  rcases mem_of_mem_extend h with h | h
  · simp at h
  · exact h

section

variable {P : String × α → Prop}

/-- What holds of all entries holds of them after one more is written, if it holds of that. -/
theorem forall_mem_insert (h : ∀ entry ∈ d, P entry) (hnew : P (key, value)) :
    ∀ entry ∈ insert d key value, P entry :=
  fun entry hmem => (mem_of_mem_insert hmem).elim (fun heq => heq ▸ hnew) (h entry)

theorem forall_mem_extend {more : List (String × α)} (h : ∀ entry ∈ d, P entry)
    (hmore : ∀ entry ∈ more, P entry) : ∀ entry ∈ extend d more, P entry :=
  fun entry hmem => (mem_of_mem_extend hmem).elim (h entry) (hmore entry)

end

/-! ## Writing and removing -/

theorem insert_ne_nil : insert d key value ≠ [] := by
  cases d with
  | nil => simp [insert]
  | cons head rest =>
    rw [insert]
    split <;> exact List.cons_ne_nil _ _

theorem insertNew_ne_nil : insertNew d key value ≠ [] := by
  rw [insertNew]
  split
  · rename_i h
    rintro rfl
    simp [contains] at h
  · exact insert_ne_nil

theorem extend_eq_nil {more : List (String × α)} (h : extend d more = []) : d = [] ∧ more = [] := by
  induction more generalizing d with
  | nil => exact ⟨h, rfl⟩
  | cons first rest ih => exact absurd (ih (d := insert d first.1 first.2) h).1 insert_ne_nil

/-- Removing a key that was written anew leaves the dictionary as it was. -/
theorem erase_insert (h : ¬contains d key = true) : erase (insert d key value) key = d := by
  induction d with
  | nil => simp [insert, erase]
  | cons head rest ih =>
    obtain ⟨k, v⟩ := head
    have hk : ¬k = key := fun hk => h (by simp [contains, get?, hk])
    have hrest : ¬contains rest key = true := by simpa [contains, get?, hk] using h
    simp [insert, erase, hk, ih hrest]

theorem insert_append {rest : Dict α} (h : ¬contains d key = true) :
    insert (d ++ rest) key value = d ++ insert rest key value := by
  induction d with
  | nil => rfl
  | cons head tail ih =>
    obtain ⟨k, v⟩ := head
    have hk : ¬k = key := fun hk => h (by simp [contains, get?, hk])
    have htail : ¬contains tail key = true := by simpa [contains, get?, hk] using h
    simp [insert, hk, ih htail]

theorem get?_append {rest : Dict α} : get? (d ++ rest) key = (get? d key).or (get? rest key) := by
  induction d with
  | nil => rfl
  | cons head tail ih =>
    obtain ⟨k, v⟩ := head
    by_cases hk : k = key
    · simp [get?, hk]
    · simp [get?, hk, ih]

theorem get?_of_mem (hnodup : (keys d).Nodup) (h : (key, value) ∈ d) :
    get? d key = some value := by
  induction d with
  | nil => cases h
  | cons head rest ih =>
    obtain ⟨k, v⟩ := head
    obtain ⟨hk, hrest⟩ := List.nodup_cons.1 hnodup
    rcases List.mem_cons.1 h with heq | hmem
    · cases heq
      simp [get?]
    · have hne : ¬k = key := by
        rintro rfl
        exact hk (List.mem_map.2 ⟨_, hmem, rfl⟩)
      simp [get?, hne, ih hrest hmem]

/-- What is written is what was there and what was added. -/
theorem contains_extend (more : Dict α) :
    contains (extend d more) key = (contains d key || contains more key) := by
  induction more generalizing d with
  | nil => simp [extend, contains]
  | cons entry rest ih =>
    have hstep : extend d (entry :: rest) = extend (insert d entry.1 entry.2) rest := rfl
    have hentry : contains (entry :: rest) key = (decide (entry.1 = key) || contains rest key) := by
      by_cases heq : entry.1 = key <;> simp [contains, get?, heq]
    rw [hstep, ih, contains_insert, hentry]
    cases contains d key <;> simp

/-- What was found before is found still, unless the key is written again. -/
theorem get?_extend_of_not_contains {more : Dict α} (h : ¬contains more key = true) :
    get? (extend d more) key = get? d key := by
  induction more generalizing d with
  | nil => rfl
  | cons first rest ih =>
    obtain ⟨k, v⟩ := first
    have hk : ¬k = key := fun hk => h (by simp [contains, get?, hk])
    have hrest : ¬contains rest key = true := by simpa [contains, get?, hk] using h
    have step := ih (d := insert d k v) hrest
    rw [get?_insert, if_neg hk] at step
    exact step

/-- What is written last is found: an entry of what was added, if the key was written there. -/
theorem get?_extend_of_contains {more : Dict α} (h : contains more key = true) :
    ∃ value, get? (extend d more) key = some value ∧ (key, value) ∈ more := by
  induction more generalizing d with
  | nil => cases h
  | cons first rest ih =>
    obtain ⟨k, v⟩ := first
    by_cases hrest : contains rest key = true
    · obtain ⟨value, hget, hmem⟩ := ih (d := insert d k v) hrest
      exact ⟨value, hget, List.mem_cons_of_mem _ hmem⟩
    · have hk : k = key := Decidable.byContradiction fun hk =>
        hrest (by simpa [contains, get?, hk] using h)
      subst hk
      have hget := get?_extend_of_not_contains (d := insert d k v) hrest
      rw [get?_insert, if_pos rfl] at hget
      exact ⟨v, hget, List.mem_cons_self⟩

/-- What is added counts, if no key is added twice. -/
theorem get?_extend_of_nodup {more : Dict α} (hnodup : (keys more).Nodup)
    (h : get? more key = some value) : get? (extend d more) key = some value := by
  obtain ⟨found, hfound, hmem⟩ := get?_extend_of_contains (d := d) (contains_of_get? h)
  rw [hfound, ← get?_of_mem hnodup hmem, h]

/-- Entries that are added where their key is not written yet. -/
theorem get?_foldl_insertNew (more : Dict α) :
    get? (more.foldl (fun done entry => insertNew done entry.1 entry.2) d) key =
      (get? d key).or (get? more key) := by
  induction more generalizing d with
  | nil => simp
  | cons first rest ih =>
    obtain ⟨k, v⟩ := first
    rw [List.foldl_cons, ih]
    rw [insertNew]
    by_cases hk : k = key
    · subst hk
      cases hget : get? d k with
      | none => simp [contains, hget, get?_insert, get?]
      | some value => simp [contains, hget]
    · split
      · simp [get?, hk]
      · simp [get?_insert, get?, hk]

theorem mem_of_mem_foldl_insertNew {more : Dict α}
    (h : entry ∈ more.foldl (fun done entry => insertNew done entry.1 entry.2) d) :
    entry ∈ d ∨ entry ∈ more := by
  induction more generalizing d with
  | nil => exact .inl h
  | cons first rest ih =>
    rcases ih h with hmem | hmem
    · rcases mem_of_mem_insertNew hmem with rfl | hold
      · exact .inr List.mem_cons_self
      · exact .inl hold
    · exact .inr (List.mem_cons_of_mem _ hmem)

theorem nodup_keys_insert (h : (keys d).Nodup) : (keys (insert d key value)).Nodup := by
  rw [keys_insert]
  split
  · exact h
  · rename_i hkey
    exact List.nodup_append.2 ⟨h, by simp, fun a ha b hb hab => hkey (by simp_all)⟩

theorem nodup_keys_extend {more : List (String × α)} (h : (keys d).Nodup) :
    (keys (extend d more)).Nodup := by
  induction more generalizing d with
  | nil => exact h
  | cons first rest ih => exact ih (nodup_keys_insert h)

/-- A key that was written once is gone when it is removed. -/
theorem not_mem_keys_erase (h : (keys d).Nodup) : key ∉ keys (erase d key) := by
  induction d with
  | nil => exact List.not_mem_nil
  | cons head rest ih =>
    obtain ⟨k, v⟩ := head
    obtain ⟨hfirst, hrest⟩ := List.nodup_cons.1 h
    rw [erase]
    split
    · rename_i heq
      exact heq ▸ hfirst
    · rename_i hne
      rintro (_ | ⟨_, hmem⟩)
      · exact hne rfl
      · exact ih hrest hmem

/-- What is added under new keys comes last. -/
theorem extend_of_disjoint {more : Dict α} (hnodup : (keys more).Nodup)
    (hnew : ∀ key ∈ keys more, ¬contains d key = true) : extend d more = d ++ more := by
  induction more generalizing d with
  | nil => exact (List.append_nil d).symm
  | cons entry rest ih =>
    obtain ⟨k, v⟩ := entry
    obtain ⟨hfirst, hrest⟩ := List.nodup_cons.1 hnodup
    have hinsert : insert d k v = d ++ [(k, v)] := by
      have happend : insert (d ++ []) k v = d ++ insert [] k v :=
        insert_append (hnew k List.mem_cons_self)
      rwa [List.append_nil] at happend
    show extend (insert d k v) rest = _
    rw [ih hrest, hinsert, List.append_assoc]
    · rfl
    · intro key hkey
      rw [contains_insert, Bool.or_eq_true, decide_eq_true_iff]
      rintro (rfl | hold)
      · exact hfirst hkey
      · exact hnew key (List.mem_cons_of_mem _ hkey) hold

/-- Entries that repeat no key are a dictionary as they stand. -/
theorem ofEntries_of_nodup (h : (keys d).Nodup) : ofEntries d = d :=
  extend_of_disjoint h fun _ _ hcontains => Bool.noConfusion hcontains

/-- What was added is looked up first. -/
theorem get?_extend (d more : Dict α) (key : String) :
    get? (extend d more) key = (get? (ofEntries more) key).or (get? d key) := by
  suffices hall : ∀ done start : Dict α,
      (∀ key, get? done key = (get? start key).or (get? d key)) →
      get? (extend done more) key = (get? (extend start more) key).or (get? d key) from
    hall d [] fun _ => rfl
  induction more with
  | nil => exact fun done start h => h key
  | cons entry rest ih =>
    intro done start h
    refine ih (insert done entry.1 entry.2) (insert start entry.1 entry.2) fun key => ?_
    rw [get?_insert, get?_insert]
    split
    · rfl
    · exact h key

/-! ### Writing several times -/

theorem insert_insert_self (d : Dict α) (key : String) (first second : α) :
    insert (insert d key first) key second = insert d key second := by
  induction d with
  | nil => simp [insert]
  | cons head rest ih => by_cases hk : head.1 = key <;> simp [insert, hk, ih]

/-- A key that is there is written in its place, before another one is written or after. -/
theorem insert_comm_of_contains {first second : α} (h : contains d key = true) (hne : key ≠ other) :
    insert (insert d other first) key second = insert (insert d key second) other first := by
  induction d with
  | nil => cases h
  | cons head rest ih =>
    obtain ⟨k, v⟩ := head
    by_cases hk : k = key
    · subst hk
      simp [insert, hne]
    · have hrest : contains rest key = true := by simpa [contains, get?, hk] using h
      by_cases ho : k = other
      · subst ho
        simp [insert, hk]
      · simp [insert, hk, ho, ih hrest]

theorem insert_extend_of_contains {more : Dict α} (h : contains d key = true)
    (hnew : key ∉ keys more) : insert (extend d more) key value = extend (insert d key value) more := by
  induction more generalizing d with
  | nil => rfl
  | cons entry rest ih =>
    have hne : key ≠ entry.1 := fun heq => hnew (heq ▸ List.mem_cons_self)
    have hkept : contains (insert d entry.1 entry.2) key = true := by
      rw [contains_insert, h, Bool.or_true]
    have hrest := ih hkept fun hmem => hnew (List.mem_cons_of_mem _ hmem)
    rw [insert_comm_of_contains h hne] at hrest
    exact hrest

/-- It does not matter whether a key is written into what is added or after it. -/
theorem extend_insert {more : Dict α} (hnodup : (keys more).Nodup) :
    extend d (insert more key value) = insert (extend d more) key value := by
  induction more generalizing d with
  | nil => rfl
  | cons entry rest ih =>
    obtain ⟨k, v⟩ := entry
    obtain ⟨hfirst, hrest⟩ := List.nodup_cons.1 hnodup
    rw [insert]
    split
    · rename_i heq
      subst heq
      have hthere : contains (insert d k v) k = true := by simp [contains_insert]
      have hlate : insert (extend (insert d k v) rest) k value =
          extend (insert (insert d k v) k value) rest := insert_extend_of_contains hthere hfirst
      rw [insert_insert_self] at hlate
      exact hlate.symm
    · exact ih hrest

/-- Dictionaries that are added one after the other can be added to each other first. -/
theorem extend_extend {more last : Dict α} (hnodup : (keys more).Nodup) :
    extend (extend d more) last = extend d (extend more last) := by
  induction last generalizing more with
  | nil => rfl
  | cons entry rest ih =>
    have hmore : (keys (insert more entry.1 entry.2)).Nodup := nodup_keys_insert hnodup
    have hstep := ih hmore
    rw [extend_insert hnodup] at hstep
    exact hstep

theorem contains_ofEntries_iff {entries : List (String × α)} :
    contains (ofEntries entries) key = true ↔ key ∈ keys entries := by
  rw [ofEntries, contains_extend, ← contains_iff_mem_keys]
  simp [contains]

/-- Where entries with one key have one value, it does not matter which of them is written last. -/
theorem get?_ofEntries_iff {entries : List (String × α)}
    (hsame : ∀ key value value', (key, value) ∈ entries → (key, value') ∈ entries → value' = value) :
    get? (ofEntries entries) key = some value ↔ (key, value) ∈ entries := by
  refine ⟨fun h => mem_of_mem_ofEntries (mem_of_get? h), fun hmem => ?_⟩
  have hkey : contains (ofEntries entries) key = true :=
    contains_ofEntries_iff.2 (List.mem_map.2 ⟨_, hmem, rfl⟩)
  obtain ⟨found, hfound⟩ := Option.isSome_iff_exists.1 hkey
  rw [hfound, hsame key value found hmem (mem_of_mem_ofEntries (mem_of_get? hfound))]

theorem nodup_keys_ofEntries (entries : List (String × α)) : (keys (ofEntries entries)).Nodup :=
  nodup_keys_extend .nil

/-- The entries of a key are the one that is looked up. -/
theorem filter_key (h : (keys d).Nodup) (key : String) :
    d.filter (fun entry => key == entry.1) = ((get? d key).map fun value => (key, value)).toList := by
  induction d with
  | nil => rfl
  | cons entry rest ih =>
    obtain ⟨k, v⟩ := entry
    obtain ⟨hfirst, hrest⟩ := List.nodup_cons.1 h
    by_cases hk : k = key
    · subst hk
      have hnone : get? rest k = none :=
        get?_eq_none_of_not_contains (mt contains_iff_mem_keys.1 hfirst)
      simp [get?, ih hrest, hnone]
    · have hne : ¬key = k := fun h => hk h.symm
      simp [get?, ih hrest, hk, hne]

/-- Choosing entries by their keys can be put off until all are written. -/
theorem filter_insert (keep : String → Bool) (d : Dict α) (key : String) (value : α) :
    (insert d key value).filter (fun entry => keep entry.1) =
      if keep key then insert (d.filter fun entry => keep entry.1) key value
      else d.filter fun entry => keep entry.1 := by
  induction d with
  | nil => by_cases hkey : keep key <;> simp [insert, hkey]
  | cons entry rest ih =>
    obtain ⟨k, v⟩ := entry
    by_cases hk : k = key
    · subst hk
      by_cases hkey : keep k <;> simp [insert, hkey]
    · by_cases hkey : keep key <;> by_cases hfirst : keep k <;>
        simp_all [insert]

theorem filter_extend (keep : String → Bool) (d : Dict α) (more : List (String × α)) :
    (extend d more).filter (fun entry => keep entry.1) =
      extend (d.filter fun entry => keep entry.1) (more.filter fun entry => keep entry.1) := by
  induction more generalizing d with
  | nil => rfl
  | cons entry rest ih =>
    obtain ⟨key, value⟩ := entry
    show (extend (insert d key value) rest).filter (fun entry => keep entry.1) = _
    rw [ih, filter_insert]
    by_cases hkey : keep key <;> simp [hkey, extend]

/-! ## Other values -/

variable {β : Type v} (f : α → β)

theorem keys_map (d : Dict α) : keys (d.map fun entry => (entry.1, f entry.2)) = keys d := by
  simp [keys, Function.comp_def]

theorem get?_map (d : Dict α) (key : String) :
    get? (d.map fun entry => (entry.1, f entry.2)) key = (get? d key).map f := by
  induction d with
  | nil => rfl
  | cons entry rest ih => by_cases hk : entry.1 = key <;> simp [get?, hk, ih]

theorem insert_map (d : Dict α) (key : String) (value : α) :
    insert (d.map fun entry => (entry.1, f entry.2)) key (f value) =
      (insert d key value).map fun entry => (entry.1, f entry.2) := by
  induction d with
  | nil => rfl
  | cons entry rest ih => by_cases hk : entry.1 = key <;> simp [insert, hk, ih]

theorem extend_map (d : Dict α) (entries : List (String × α)) :
    extend (d.map fun entry => (entry.1, f entry.2))
        (entries.map fun entry => (entry.1, f entry.2)) =
      (extend d entries).map fun entry => (entry.1, f entry.2) := by
  induction entries generalizing d with
  | nil => rfl
  | cons entry rest ih =>
    have hrest := ih (insert d entry.1 entry.2)
    rw [← insert_map] at hrest
    exact hrest

theorem ofEntries_map (entries : List (String × α)) :
    ofEntries (entries.map fun entry => (entry.1, f entry.2)) =
      (ofEntries entries).map fun entry => (entry.1, f entry.2) :=
  extend_map f [] entries

/-! ## Dictionaries that are alike -/

variable {R : α → α → Prop} {d' : Dict α}

/-- The dictionaries have the same keys in the same order, and related values under them. -/
def Alike (R : α → α → Prop) (d d' : Dict α) : Prop :=
  List.Forall₂ (fun entry entry' => entry.1 = entry'.1 ∧ R entry.2 entry'.2) d d'

theorem Alike.get? (h : Alike R d d') (key : String) :
    Option.Rel R (Dict.get? d key) (Dict.get? d' key) := by
  induction h with
  | nil => exact .none
  | @cons entry entry' rest rest' hfirst _ ih =>
    obtain ⟨name, value⟩ := entry
    obtain ⟨name', value'⟩ := entry'
    obtain ⟨rfl, hvalue⟩ := hfirst
    rw [Dict.get?, Dict.get?]
    split
    · exact .some hvalue
    · exact ih

theorem Alike.contains (h : Alike R d d') (key : String) : contains d key = contains d' key := by
  have hget := h.get? key
  rw [Dict.contains, Dict.contains]
  generalize Dict.get? d key = found at hget ⊢
  generalize Dict.get? d' key = found' at hget ⊢
  cases hget with
  | some _ => rfl
  | none => rfl

theorem Alike.insert (h : Alike R d d') (key : String) {value value' : α} (hvalue : R value value') :
    Alike R (insert d key value) (insert d' key value') := by
  induction h with
  | nil => exact .cons ⟨rfl, hvalue⟩ .nil
  | @cons entry entry' rest rest' hfirst hrest ih =>
    obtain ⟨name, old⟩ := entry
    obtain ⟨name', old'⟩ := entry'
    obtain ⟨rfl, hold⟩ := hfirst
    rw [Dict.insert, Dict.insert]
    split
    · exact .cons ⟨rfl, hvalue⟩ hrest
    · exact .cons ⟨rfl, hold⟩ ih

end TypeSchema.Dict
