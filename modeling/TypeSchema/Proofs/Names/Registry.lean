import Mathlib.Data.List.Nodup
import Mathlib.Data.List.Perm.Subperm
import TypeSchema.Proofs.Dict
import TypeSchema.Schema.Naming

/-!
# The registry of names

A registry offers a type its candidates one after the other and hands out the first one that nobody
else holds.  There always is one (`isOpen_makeUnique`), because the candidates of a base are distinct
and there are fewer holders than candidates tried.

Two facts carry everything that is said about names of definitions.  A holder keeps its name for good
(`holder_makeUnique`), so a name means one type throughout a call; and the name a type was given from
a base is the one it is given from that base again, whatever was handed out in between
(`Settled.makeUnique`), so there are no more names than pairs of a type and a base.
-/

set_option autoImplicit false

namespace TypeSchema.NameRegistry

variable {registry : NameRegistry} {id other : TypeId} {base name : String}

/-! ## Candidates -/

/-- The numbers after a base can be read off. -/
theorem candidate_injective (base : String) : Function.Injective (candidate base) := by
  have toString_injective : Function.Injective (toString : Nat → String) := by
    intro m n h
    have hdigits : Nat.toDigits 10 m = Nat.toDigits 10 n := by
      have := congrArg String.toList h
      simpa [← Nat.toList_repr] using this
    have := congrArg (fun digits => Nat.ofDigitChars 10 digits 0) hdigits
    simpa using this
  intro m n h
  cases m with
  | zero =>
    cases n with
    | zero => rfl
    | succ n =>
      have := congrArg String.length h
      simp only [candidate, String.length_append] at this
      have hpos : "_".length = 1 := rfl
      omega
  | succ m =>
    cases n with
    | zero =>
      have := congrArg String.length h
      simp only [candidate, String.length_append] at this
      have hpos : "_".length = 1 := rfl
      omega
    | succ n =>
      have hsuffix : toString (m + 1) = toString (n + 1) := by
        simpa [candidate, String.append_assoc] using h
      exact toString_injective hsuffix

theorem isOpen_iff :
    registry.isOpen id name = true ↔
      ∀ holder, Dict.get? registry.holders name = some holder → holder = id := by
  rw [isOpen]
  cases h : Dict.get? registry.holders name with
  | none => simp
  | some holder => simp

/-- A name that is closed to a type is a name of another one. -/
theorem mem_keys_of_not_isOpen (h : ¬registry.isOpen id name = true) :
    name ∈ Dict.keys registry.holders := by
  apply Dict.contains_iff_mem_keys.1
  by_contra hc
  exact h (isOpen_iff.2 fun holder hh => by simp [Dict.contains, hh] at hc)

/-- Among the candidates tried there is an open one: not all of them can be held. -/
theorem exists_isOpen (registry : NameRegistry) (id : TypeId) (base : String) :
    ∃ n ∈ List.range (registry.holders.length + 1),
      registry.isOpen id (candidate base n) = true := by
  by_contra hnone
  have hclosed : ∀ n ∈ List.range (registry.holders.length + 1),
      ¬registry.isOpen id (candidate base n) = true :=
    fun n hn ho => hnone ⟨n, hn, ho⟩
  have hnodup : ((List.range (registry.holders.length + 1)).map (candidate base)).Nodup :=
    List.Nodup.map (candidate_injective base) List.nodup_range
  have hsub : (List.range (registry.holders.length + 1)).map (candidate base) ⊆
      Dict.keys registry.holders := by
    intro name hname
    obtain ⟨n, hn, rfl⟩ := List.mem_map.1 hname
    exact mem_keys_of_not_isOpen (hclosed n hn)
  have hlength := (List.subperm_of_subset hnodup hsub).length_le
  simp only [List.length_map, List.length_range, Dict.keys] at hlength
  omega

/-- The number handed out is that of the first candidate that is open. -/
theorem openNumber_spec (registry : NameRegistry) (id : TypeId) (base : String) :
    registry.isOpen id (candidate base (registry.openNumber id base)) = true ∧
      ∀ m < registry.openNumber id base, ¬registry.isOpen id (candidate base m) = true := by
  obtain ⟨n, hn, hopen⟩ := exists_isOpen registry id base
  rw [openNumber]
  cases hfind : (List.range (registry.holders.length + 1)).find? fun n =>
      registry.isOpen id (candidate base n) with
  | none => exact absurd hopen (by simpa using List.find?_eq_none.1 hfind n hn)
  | some k =>
    obtain ⟨hk, _, hbefore⟩ := List.find?_range_eq_some.1 hfind
    exact ⟨hk, fun m hm => by simpa using hbefore m hm⟩

/-- What is open while nothing before it is, is handed out. -/
theorem openNumber_eq {n : Nat} (hopen : registry.isOpen id (candidate base n) = true)
    (hbefore : ∀ m < n, ¬registry.isOpen id (candidate base m) = true) :
    registry.openNumber id base = n := by
  obtain ⟨hfirst, hclosed⟩ := openNumber_spec registry id base
  rcases Nat.lt_trichotomy (registry.openNumber id base) n with h | h | h
  · exact absurd hfirst (hbefore _ h)
  · exact h
  · exact absurd hopen (hclosed n h)

/-! ## Handing out -/

theorem isOpen_makeUnique (registry : NameRegistry) (id : TypeId) (base : String) :
    registry.isOpen id (registry.makeUnique id base).1 = true :=
  (openNumber_spec registry id base).1

/-- Whoever is given a name holds it. -/
@[simp] theorem get?_holders_makeUnique (registry : NameRegistry) (id : TypeId) (base : String) :
    Dict.get? (registry.makeUnique id base).2.holders (registry.makeUnique id base).1 = some id := by
  simp [makeUnique, assign, Dict.get?_insert]

/-- **A holder keeps its name.**  What is handed out later takes no name from anybody. -/
theorem holder_makeUnique (h : Dict.get? registry.holders name = some other) :
    Dict.get? (registry.makeUnique id base).2.holders name = some other := by
  have hopen := isOpen_makeUnique registry id base
  simp only [makeUnique, assign, Dict.get?_insert] at hopen ⊢
  split
  · rename_i heq
    subst heq
    rw [isOpen_iff.1 hopen other h]
  · exact h

/-- A registry whose current names are held by those they name, each name by one. -/
structure Sound (registry : NameRegistry) : Prop where
  current : ∀ id name, registry.name? id = some name →
    Dict.get? registry.holders name = some id
  nodup : (Dict.keys registry.holders).Nodup

theorem sound_empty : Sound {} := ⟨fun _ _ h => by simp [name?] at h, List.nodup_nil⟩

theorem name?_assign :
    (registry.assign id name).name? other =
      if id = other then some name else registry.name? other := by
  rw [name?, assign]
  by_cases h : id = other
  · simp [h]
  · have hne : (id == other) = false := by simpa using h
    simp only [List.find?_cons, hne, if_neg h, List.find?_filter]
    congr 2
    funext entry
    by_cases he : entry.1 = other
    · simpa [he] using fun hid => h (Eq.symm hid)
    · simp [he]

theorem Sound.makeUnique (h : registry.Sound) (id : TypeId) (base : String) :
    (registry.makeUnique id base).2.Sound := by
  refine ⟨fun other name hname => ?_, Dict.nodup_keys_insert h.nodup⟩
  have hgiven : (registry.makeUnique id base).2.name? other =
      if id = other then some (registry.makeUnique id base).1 else registry.name? other :=
    name?_assign
  rw [hgiven] at hname
  split at hname
  · rename_i heq
    cases hname
    rw [← heq]
    exact get?_holders_makeUnique registry id base
  · exact holder_makeUnique (h.current other name hname)

/-! ## Names are stable -/

/-- Every name that is held is the one its holder is given, now as then, from one of the bases it has
names made from. -/
def Settled (bases : TypeId → List String) (registry : NameRegistry) : Prop :=
  ∀ name id, Dict.get? registry.holders name = some id →
    ∃ base ∈ bases id, candidate base (registry.openNumber id base) = name

variable {bases : TypeId → List String}

theorem settled_empty : Settled bases {} := fun _ _ h => by simp at h

/-- A name that is held is given again: it stays open to its holder, and the candidates before it
stay closed. -/
theorem openNumber_makeUnique {given : String}
    (h : Dict.get? registry.holders (candidate base (registry.openNumber id base)) = some id) :
    (registry.makeUnique other given).2.openNumber id base = registry.openNumber id base := by
  obtain ⟨_, hclosed⟩ := openNumber_spec registry id base
  apply openNumber_eq
  · rw [isOpen_iff, holder_makeUnique h]
    exact fun holder hh => (Option.some.inj hh).symm
  · intro m hm hopen
    refine hclosed m hm (isOpen_iff.2 fun holder hh => ?_)
    exact isOpen_iff.1 hopen holder (holder_makeUnique hh)

/-- What is handed out next leaves every name one that is given again. -/
theorem Settled.makeUnique (h : registry.Settled bases) (hbase : base ∈ bases id) :
    (registry.makeUnique id base).2.Settled bases := by
  intro name holder hname
  by_cases heq : (registry.makeUnique id base).1 = name
  · -- The name is the one just given: it is open to `id`, and what was closed to `id` stays so.
    subst heq
    rw [get?_holders_makeUnique] at hname
    cases hname
    refine ⟨base, hbase, ?_⟩
    obtain ⟨_, hclosed⟩ := openNumber_spec registry id base
    have hnumber : (registry.makeUnique id base).2.openNumber id base =
        registry.openNumber id base := by
      apply openNumber_eq
      · rw [isOpen_iff]
        intro other hother
        rw [show candidate base (registry.openNumber id base) = (registry.makeUnique id base).1
          from rfl, get?_holders_makeUnique] at hother
        exact (Option.some.inj hother).symm
      · intro m hm hopen
        refine hclosed m hm (isOpen_iff.2 fun other hother => ?_)
        exact isOpen_iff.1 hopen other (holder_makeUnique hother)
    rw [hnumber]
    rfl
  · have hold : Dict.get? registry.holders name = some holder := by
      simpa [NameRegistry.makeUnique, assign, Dict.get?_insert, show ¬candidate base
        (registry.openNumber id base) = name from heq] using hname
    obtain ⟨other, hother, hcandidate⟩ := h name holder hold
    refine ⟨other, hother, ?_⟩
    rw [openNumber_makeUnique (hcandidate ▸ hold), hcandidate]

/-- There are no more names than types and bases for them. -/
theorem Settled.length_holders_le (h : registry.Settled bases) (hsound : registry.Sound)
    (types : List TypeId) (htypes : ∀ name id, Dict.get? registry.holders name = some id →
      id ∈ types) :
    registry.holders.length ≤ (types.flatMap bases).length := by
  have hsub : Dict.keys registry.holders ⊆ types.flatMap fun id =>
      (bases id).map fun base => candidate base (registry.openNumber id base) := by
    intro name hname
    obtain ⟨id, hid⟩ : ∃ id, Dict.get? registry.holders name = some id := by
      have := Dict.contains_iff_mem_keys.2 hname
      exact Option.isSome_iff_exists.1 this
    obtain ⟨base, hbase, hcandidate⟩ := h name id hid
    exact List.mem_flatMap.2 ⟨id, htypes name id hid, List.mem_map.2 ⟨base, hbase, hcandidate⟩⟩
  have hlength := (List.subperm_of_subset hsound.nodup hsub).length_le
  simpa [Dict.keys, List.length_flatMap] using hlength

end TypeSchema.NameRegistry
