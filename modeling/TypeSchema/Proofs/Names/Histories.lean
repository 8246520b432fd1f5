import Mathlib.Data.List.Induction
import TypeSchema.Proofs.Names.Registry

/-!
# Everything the registry ever answers

A registry is asked for names in any order, for types that have one and types that have none, and a type
that has a name may be given another one.  The bases are any texts, so a base may read like a name with a
number that was handed out before.

Whatever was asked for, every name that is made from a base is the base itself or the base with the least
number that nobody else holds (`FirstOpen`), and finding it takes no more steps than there are names that
are held.  A name that was answered once belongs to its type for good, also after the type was given
another one (`holder_run`); this is why **`NameRegistry.answers_consistent`** can say that no name is ever
answered for two types.
-/

set_option autoImplicit false

namespace TypeSchema.NameRegistry

/-- A call of the registry. -/
inductive Call
  | makeUnique (id : TypeId) (base : String)
  | nameOf (id : TypeId) (base : String)
deriving DecidableEq, Repr

namespace Call

/-- The type a name is asked for. -/
def id : Call → TypeId
  | makeUnique id _ | nameOf id _ => id

/-- The text a name is made from. -/
def base : Call → String
  | makeUnique _ base | nameOf _ base => base

/-- The name that is answered, and the registry afterwards. -/
def make (registry : NameRegistry) : Call → String × NameRegistry
  | makeUnique id base => registry.makeUnique id base
  | nameOf id base => registry.nameOf id base

end Call

/-- The registry after calls on a new one. -/
def run (calls : List Call) : NameRegistry :=
  calls.foldl (fun registry call => (call.make registry).2) {}

/-- What a call is answered after others. -/
def answer (calls : List Call) (call : Call) : String :=
  (call.make (run calls)).1

/-- The bases of the calls for a type. -/
def basesOf (calls : List Call) (id : TypeId) : List String :=
  (calls.filter fun call => call.id = id).map Call.base

/-- The name is the first candidate of the base that nobody else holds.  Each candidate before it is held
by another type, and there are no more of these than names. -/
def FirstOpen (registry : NameRegistry) (id : TypeId) (base name : String) : Prop :=
  ∃ n ≤ registry.holders.length, name = candidate base n ∧
    (∀ holder, Dict.get? registry.holders name = some holder → holder = id) ∧
    ∀ m < n, ∃ holder, Dict.get? registry.holders (candidate base m) = some holder ∧ holder ≠ id

variable {registry : NameRegistry} {id other : TypeId} {base name : String} {calls : List Call}
  {call : Call}

@[simp] theorem run_concat (calls : List Call) (call : Call) :
    run (calls ++ [call]) = (call.make (run calls)).2 := by
  rw [run, List.foldl_concat, run]

theorem basesOf_subset (calls : List Call) (call : Call) (id : TypeId) :
    basesOf calls id ⊆ basesOf (calls ++ [call]) id := by
  rw [basesOf, basesOf, List.filter_append, List.map_append]
  exact List.subset_append_left _ _

theorem mem_basesOf_concat (calls : List Call) (call : Call) :
    call.base ∈ basesOf (calls ++ [call]) call.id :=
  List.mem_map.2 ⟨call, List.mem_filter.2 ⟨List.mem_append_right _ (List.mem_singleton_self _),
    decide_eq_true rfl⟩, rfl⟩

/-! ## One call -/

theorem exists_holder_of_not_isOpen (h : ¬registry.isOpen id name = true) :
    ∃ holder, Dict.get? registry.holders name = some holder ∧ holder ≠ id := by
  rw [isOpen_iff] at h
  push Not at h
  exact h

theorem openNumber_le (registry : NameRegistry) (id : TypeId) (base : String) :
    registry.openNumber id base ≤ registry.holders.length := by
  obtain ⟨n, hn, hopen⟩ := exists_isOpen registry id base
  by_contra hgt
  obtain ⟨_, hbefore⟩ := openNumber_spec registry id base
  exact hbefore n (Nat.lt_of_le_of_lt (Nat.lt_succ_iff.1 (List.mem_range.1 hn)) (Nat.not_le.1 hgt)) hopen

/-- The registry finds the first candidate that is open. -/
theorem firstOpen_candidate (registry : NameRegistry) (id : TypeId) (base : String) :
    FirstOpen registry id base (candidate base (registry.openNumber id base)) := by
  obtain ⟨hopen, hbefore⟩ := openNumber_spec registry id base
  exact ⟨_, openNumber_le registry id base, rfl, isOpen_iff.1 hopen,
    fun m hm => exists_holder_of_not_isOpen (hbefore m hm)⟩

theorem make_nameOf_of_some (h : registry.name? id = some name) (base : String) :
    (Call.nameOf id base).make registry = (name, registry) := by
  rw [Call.make, nameOf, h]

theorem make_nameOf_of_none (h : registry.name? id = none) (base : String) :
    (Call.nameOf id base).make registry = registry.makeUnique id base := by
  rw [Call.make, nameOf, h]

/-- A call makes a name, or it answers the one that there is and changes nothing. -/
theorem make_cases (registry : NameRegistry) (call : Call) :
    call.make registry = registry.makeUnique call.id call.base ∨
      ∃ name, registry.name? call.id = some name ∧ call.make registry = (name, registry) := by
  cases call with
  | makeUnique id base => exact .inl rfl
  | nameOf id base =>
    cases hname : registry.name? id with
    | none => exact .inl (make_nameOf_of_none hname base)
    | some name => exact .inr ⟨name, hname, make_nameOf_of_some hname base⟩

theorem holder_make (h : Dict.get? registry.holders name = some other) :
    Dict.get? (call.make registry).2.holders name = some other := by
  rcases make_cases registry call with heq | ⟨current, _, heq⟩
  · rw [heq]
    exact holder_makeUnique h
  · rw [heq]
    exact h

theorem name?_makeUnique (registry : NameRegistry) (id : TypeId) (base : String) :
    (registry.makeUnique id base).2.name? id = some (registry.makeUnique id base).1 := by
  rw [makeUnique, name?_assign, if_pos rfl]

/-- The name that is answered is the current one. -/
theorem name?_make (registry : NameRegistry) (call : Call) :
    (call.make registry).2.name? call.id = some (call.make registry).1 := by
  rcases make_cases registry call with heq | ⟨current, hname, heq⟩
  · rw [heq, name?_makeUnique]
  · rw [heq, hname]

theorem Sound.make (h : registry.Sound) (call : Call) : (call.make registry).2.Sound := by
  rcases make_cases registry call with heq | ⟨current, _, heq⟩
  · rw [heq]
    exact h.makeUnique call.id call.base
  · rw [heq]
    exact h

theorem Settled.mono {bases more : TypeId → List String} (h : registry.Settled bases)
    (hmore : ∀ id, bases id ⊆ more id) : registry.Settled more := by
  intro name id hname
  obtain ⟨base, hbase, hcandidate⟩ := h name id hname
  exact ⟨base, hmore id hbase, hcandidate⟩

/-! ## All calls -/

theorem sound_run (calls : List Call) : (run calls).Sound := by
  induction calls using List.reverseRecOn with
  | nil => exact sound_empty
  | append_singleton calls call ih =>
    rw [run_concat]
    exact ih.make call

/-- Every name that is held is the one its holder would be given again. -/
theorem settled_run (calls : List Call) : (run calls).Settled (basesOf calls) := by
  induction calls using List.reverseRecOn with
  | nil => exact settled_empty
  | append_singleton calls call ih =>
    have hmore := ih.mono (basesOf_subset calls call)
    rw [run_concat]
    rcases make_cases (run calls) call with heq | ⟨current, _, heq⟩
    · rw [heq]
      exact hmore.makeUnique (mem_basesOf_concat calls call)
    · rw [heq]
      exact hmore

/-- A name that was answered belongs to its type whatever is asked for later. -/
theorem holder_run (before : List Call) (call : Call) (later : List Call) :
    Dict.get? (run (before ++ call :: later)).holders (answer before call) = some call.id := by
  induction later using List.reverseRecOn with
  | nil =>
    rw [run_concat]
    exact ((sound_run before).make call).current _ _ (name?_make _ _)
  | append_singleton later last ih =>
    rw [← List.cons_append, ← List.append_assoc, run_concat]
    exact holder_make ih

/-- **The registry is consistent over all calls.**  A name that is made from a base is the first of the
base's candidates that nobody else holds, and it is found.  A type that has a name is answered this name,
and nothing changes; the name was made from the base of an earlier call for the type, and it is still the
first candidate of that base that nobody else holds.  What is answered is the current name of its type
from then on, and the current name of a type is held by it.  No name is ever answered for two types. -/
theorem answers_consistent (calls : List Call) :
    (∀ id base, FirstOpen (run calls) id base (answer calls (.makeUnique id base))) ∧
    (∀ id base, (run calls).name? id = none →
      FirstOpen (run calls) id base (answer calls (.nameOf id base))) ∧
    (∀ id base name, (run calls).name? id = some name → answer calls (.nameOf id base) = name ∧
      run (calls ++ [.nameOf id base]) = run calls ∧
      ∃ earlier ∈ basesOf calls id, FirstOpen (run calls) id earlier name) ∧
    (∀ call, (run (calls ++ [call])).name? call.id = some (answer calls call)) ∧
    (∀ id name, (run calls).name? id = some name →
      Dict.get? (run calls).holders name = some id) ∧
    ∀ before first between second after,
      calls = before ++ first :: (between ++ second :: after) →
        answer before first = answer (before ++ first :: between) second → first.id = second.id := by
  have hsound := sound_run calls
  refine ⟨fun id base => firstOpen_candidate _ id base, fun id base hnone => ?_,
    fun id base name hname => ⟨?_, ?_, ?_⟩, fun call => ?_, hsound.current, ?_⟩
  · rw [answer, make_nameOf_of_none hnone]
    exact firstOpen_candidate _ id base
  · rw [answer, make_nameOf_of_some hname]
  · rw [run_concat, make_nameOf_of_some hname]
  · obtain ⟨earlier, hearlier, hcandidate⟩ := settled_run calls name id (hsound.current id name hname)
    refine ⟨earlier, hearlier, ?_⟩
    rw [← hcandidate]
    exact firstOpen_candidate _ id earlier
  · rw [run_concat]
    exact name?_make _ _
  · intro before first between second after heq hsame
    have hfirst := holder_run before first (between ++ second :: after)
    have hsecond := holder_run (before ++ first :: between) second after
    rw [List.append_assoc, List.cons_append, ← hsame] at hsecond
    exact Option.some.inj (hfirst.symm.trans hsecond)

/-- Two types of one name, one whose name reads like a numbered one, and the first one renamed. -/
def bookCalls : List Call :=
  [.makeUnique ⟨1⟩ "Book", .nameOf ⟨2⟩ "Book", .makeUnique ⟨3⟩ "Book_1", .makeUnique ⟨1⟩ "Page"]

theorem answers_consistent_bookCalls :
    answer bookCalls (.nameOf ⟨1⟩ "Book") = "Page" ∧ answer bookCalls (.nameOf ⟨3⟩ "Book") = "Book_1_1" ∧
    answer bookCalls (.makeUnique ⟨3⟩ "Book") = "Book_2" ∧
    answer bookCalls (.makeUnique ⟨1⟩ "Book") = "Book" ∧
    FirstOpen (run bookCalls) ⟨4⟩ "Book" "Book_2" ∧
    Dict.get? (run bookCalls).holders "Page" = some ⟨1⟩ ∧ (⟨1⟩ : TypeId) ≠ ⟨2⟩ ∧
    answer [] (.makeUnique ⟨1⟩ "Book") ≠ answer [.makeUnique ⟨1⟩ "Book"] (.nameOf ⟨2⟩ "Book") := by
  obtain ⟨-, hmade, hkept, -, hheld, hdistinct⟩ := answers_consistent bookCalls
  have hpage : (run bookCalls).name? ⟨1⟩ = some "Page" := by decide +kernel
  have hnumbered : (run bookCalls).name? ⟨3⟩ = some "Book_1_1" := by decide +kernel
  have hfourth : answer bookCalls (.nameOf ⟨4⟩ "Book") = "Book_2" := by decide +kernel
  refine ⟨(hkept ⟨1⟩ "Book" _ hpage).1, (hkept ⟨3⟩ "Book" _ hnumbered).1, by decide +kernel,
    by decide +kernel, ?_, hheld ⟨1⟩ _ hpage, by decide, fun hsame => ?_⟩
  · rw [← hfourth]
    exact hmade ⟨4⟩ "Book" (by decide +kernel)
  · have htypes := hdistinct [] (.makeUnique ⟨1⟩ "Book") [] (.nameOf ⟨2⟩ "Book") _ rfl hsame
    revert htypes
    decide

end TypeSchema.NameRegistry
