/-!
# Dictionaries in insertion order

Objects, declaration tables and the parts of a document are dictionaries whose order is part of
their value: a key stays where it was first written, writing it again replaces the value in place,
and removing it closes the gap.
-/

set_option autoImplicit false

namespace TypeSchema

universe u v

/-- A dictionary in the order in which its keys were first written. -/
abbrev Dict (α : Type u) := List (String × α)

namespace Dict

variable {α : Type u} {β : Type v}

/-- The value under the key. -/
def get? : Dict α → String → Option α
  | [], _ => none
  | (k, v) :: rest, key => if k = key then some v else get? rest key

/-- Whether the key is written. -/
def contains (d : Dict α) (key : String) : Bool :=
  (get? d key).isSome

/-- Writes the key: in place if it is there, else at the end. -/
def insert : Dict α → String → α → Dict α
  | [], key, value => [(key, value)]
  | (k, v) :: rest, key, value =>
    if k = key then (k, value) :: rest else (k, v) :: insert rest key value

/-- Writes the key only if it is not there yet. -/
def insertNew (d : Dict α) (key : String) (value : α) : Dict α :=
  if contains d key then d else insert d key value

/-- Removes the key and closes the gap. -/
def erase : Dict α → String → Dict α
  | [], _ => []
  | (k, v) :: rest, key => if k = key then rest else (k, v) :: erase rest key

/-- Writes every entry of `more`, in its order. -/
def extend (d : Dict α) (more : List (String × α)) : Dict α :=
  more.foldl (fun acc entry => insert acc entry.1 entry.2) d

/-- The dictionary the entries leave when written one after the other. -/
def ofEntries (entries : List (String × α)) : Dict α :=
  extend [] entries

/-- The keys in order. -/
def keys (d : Dict α) : List String :=
  d.map Prod.fst

@[simp] theorem get?_nil (key : String) : get? ([] : Dict α) key = none := rfl

theorem get?_insert (d : Dict α) (key other : String) (value : α) :
    get? (insert d key value) other = if key = other then some value else get? d other := by
  induction d with
  | nil => simp [insert, get?]
  | cons entry rest ih =>
    obtain ⟨k, v⟩ := entry
    by_cases hk : k = key
    · subst hk
      by_cases ho : k = other <;> simp [insert, get?, ho]
    · by_cases ho : k = other
      · subst ho
        have hne : ¬key = k := fun h => hk h.symm
        simp [insert, get?, hk, hne]
      · simp [insert, get?, hk, ho, ih]

/-- Writing a key that is there keeps the order of the keys; a new key comes last. -/
theorem keys_insert (d : Dict α) (key : String) (value : α) :
    keys (insert d key value) = if key ∈ keys d then keys d else keys d ++ [key] := by
  induction d with
  | nil => simp [insert, keys]
  | cons entry rest ih =>
    obtain ⟨k, v⟩ := entry
    by_cases hk : k = key
    · subst hk
      simp [insert, keys]
    · have hne : ¬key = k := fun h => hk h.symm
      simp only [keys] at ih
      by_cases hm : key ∈ rest.map Prod.fst <;> simp [insert, keys, hk, hne, hm, ih]

theorem contains_insert (d : Dict α) (key other : String) (value : α) :
    contains (insert d key value) other = (decide (key = other) || contains d other) := by
  unfold contains
  rw [get?_insert]
  by_cases h : key = other <;> simp [h]

end Dict

end TypeSchema
