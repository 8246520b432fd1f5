import Mathlib.Data.List.Nodup
import TypeSchema.Proofs.Graph.Operations

/-!
# Graphs that were built are valid

**`Session.run_sound`**: whatever is done with a builder in whatever order, as long as it is passed what it
answered and defines what was reserved, the graph is valid after each operation, types stay what they were,
literals are shared by their values, and declarations are places apart.

What carries this is an invariant of the session.  Positions that were answered are in range
(`Session.InRange`).  The table of shared types has what was asked for and gives no position twice, and
no such position is a slot (`Session.Keeps`); it is here that positions of 32 bits must not come around.
-/

set_option autoImplicit false

namespace TypeSchema

open TypeGraph GraphBuilder

namespace Session

variable {s t : Session} {operation : Operation} {operations : List Operation}

/-! ## One operation after the other -/

theorem mem_types_iff {id : TypeId} : id ∈ s.types ↔ ∃ p ∈ s.done, p.answer = .type id := by
  rw [types, List.mem_filterMap]
  refine exists_congr fun p => and_congr_right fun _ => ?_
  cases p.answer <;> simp

theorem mem_symbols_iff {id : SymbolId} : id ∈ s.symbols ↔ ∃ p ∈ s.done, p.answer = .symbol id := by
  rw [symbols, List.mem_filterMap]
  refine exists_congr fun p => and_congr_right fun _ => ?_
  cases p.answer <;> simp

theorem mem_slots_iff {id : TypeId} : id ∈ s.slots ↔
    ∃ p ∈ s.done, p.operation.reserves = true ∧ p.answer = .type id := by
  rw [slots, mem_types_iff]
  simp only [List.mem_filter, and_assoc]

/-- What is done is added to what was done. -/
structure Performs (s : Session) (operation : Operation) (answer : Answer) (t : Session) : Prop where
  permits : s.permits operation = true
  perform : s.work.perform operation = some (answer, t.work)
  done : t.done = ⟨operation, answer, t.work.builder.graph⟩ :: s.done

theorem exists_performs (h : s.perform? operation = some t) : ∃ answer, s.Performs operation answer t := by
  unfold perform? at h
  split at h
  · next hpermits =>
    obtain ⟨⟨answer, work⟩, hperform, rfl⟩ := Option.map_eq_some_iff.1 h
    exact ⟨answer, hpermits, hperform, rfl⟩
  · cases h

/-- What every operation preserves holds after all of them. -/
theorem run_induction {P : Session → Prop} (hs : P s)
    (hstep : ∀ s operation answer t, P s → s.Performs operation answer t → P t)
    (h : s.run operations = some t) : P t := by
  induction operations generalizing s with
  | nil => exact Option.some.inj h ▸ hs
  | cons operation operations ih =>
    obtain ⟨next, hnext, hrest⟩ := Option.bind_eq_some_iff.1 h
    obtain ⟨answer, hperforms⟩ := exists_performs hnext
    exact ih (hstep s operation answer next hs hperforms) hrest

/-! ## Positions in range -/

/-- Every position that is held or was answered is in range, and the graph was valid all the time. -/
structure InRange (s : Session) : Prop where
  work : s.work.InRange
  types : ∀ id ∈ s.types, s.work.builder.graph.HasType id
  symbols : ∀ id ∈ s.symbols, s.work.builder.graph.HasSymbol id
  valid : ∀ p ∈ s.done, p.graph.validate = .ok ()

/-- What was answered is there. -/
theorem InRange.hasType (hs : s.InRange) {p : Performance} (hp : p ∈ s.done) {id : TypeId}
    (hanswer : p.answer = .type id) : s.work.builder.graph.HasType id :=
  hs.types id (mem_types_iff.2 ⟨p, hp, hanswer⟩)

theorem slots_subset_types {id : TypeId} (h : id ∈ s.slots) : id ∈ s.types := by
  obtain ⟨p, hp, _, hanswer⟩ := mem_slots_iff.1 h
  exact mem_types_iff.2 ⟨p, hp, hanswer⟩

variable {answer : Answer}

theorem Performs.slot (h : s.Performs operation answer t) {id : TypeId} (hslot : operation.slot? = some id) :
    id ∈ s.slots := by
  have hpermits := h.permits
  simp only [Session.permits, hslot, Option.all_some, Bool.and_eq_true, List.contains_iff_mem] at hpermits
  exact hpermits.2

theorem Performs.effect (h : s.Performs operation answer t) (hs : s.InRange) :
    s.work.Effect operation answer t.work := by
  have hpermits := h.permits
  simp only [Session.permits, Bool.and_eq_true, List.all_eq_true, List.contains_iff_mem] at hpermits
  exact Work.effect h.perform hs.work (fun id hid => hs.types id (hpermits.1.1 id hid))
    (fun id hid => hs.symbols id (hpermits.1.2 id hid))
    fun id hid => hs.types id (slots_subset_types (h.slot hid))

theorem Performs.within (h : s.Performs operation answer t) (hs : s.InRange) :
    s.work.builder.graph.Within t.work.builder.graph :=
  (h.effect hs).changes_all.within

theorem InRange.step (hs : s.InRange) (h : s.Performs operation answer t) : t.InRange := by
  have heffect := h.effect hs
  have hwithin := h.within hs
  refine ⟨heffect.inRange, fun id hid => ?_, fun id hid => ?_, ?_⟩
  · obtain ⟨p, hp, hanswer⟩ := mem_types_iff.1 hid
    rw [h.done, List.mem_cons] at hp
    rcases hp with rfl | hp
    · exact heffect.hasType id hanswer
    · exact hwithin.hasType (hs.hasType hp hanswer)
  · obtain ⟨p, hp, hanswer⟩ := mem_symbols_iff.1 hid
    rw [h.done, List.mem_cons] at hp
    rcases hp with rfl | hp
    · exact heffect.hasSymbol id hanswer
    · exact hwithin.hasSymbol (hs.symbols id (mem_symbols_iff.2 ⟨p, hp, hanswer⟩))
  · rw [h.done, List.forall_mem_cons]
    exact ⟨validate_eq_ok_iff.2 heffect.inRange.builder.graph, hs.valid⟩

theorem inRange_start : InRange {} where
  work := ⟨⟨List.forall_mem_nil _, List.forall_mem_nil _⟩, List.forall_mem_nil _⟩
  types := List.forall_mem_nil _
  symbols := List.forall_mem_nil _
  valid := List.forall_mem_nil _

/-! ## Types that stay what they are -/

/-- Answers stand: a type that was answered is what it was, unless it is a slot, and a shared type is found
again. -/
structure Keeps (s : Session) : Prop where
  kept : ∀ p ∈ s.done, ∀ id, p.answer = .type id → id ∉ s.slots →
    p.graph.HasType id ∧ s.work.builder.graph.type? id = p.graph.type? id
  /-- Only what is reserved is a slot. -/
  apart : ∀ p ∈ s.done, ∀ id, p.answer = .type id → p.operation.reserves = false →
    p.operation.slot? = none → id ∉ s.slots
  known : ∀ p ∈ s.done, ∀ key id, p.operation.key? = some key → p.answer = .type id →
    s.work.builder.shared.lookup key = some id
  asked : ∀ entry ∈ s.work.builder.shared, ∃ p ∈ s.done, p.operation.key? = some entry.1 ∧
    p.answer = .type entry.2
  distinct : (s.work.builder.shared.map Prod.snd).Nodup

/-- An operation that asks for a shared type reserves nothing and fills no slot. -/
theorem of_key? {key : String} (h : operation.key? = some key) :
    operation.reserves = false ∧ operation.slot? = none := by
  cases operation with
  | type call => cases call with
    | reserve => cases h
    | _ => exact ⟨rfl, rfl⟩
  | _ => cases h

theorem of_reserves (h : operation.reserves = true) : operation.key? = none ∧ operation.slot? = none := by
  cases operation with
  | type call => cases call with
    | reserve => exact ⟨rfl, rfl⟩
    | _ => cases h
  | _ => cases h

/-- Slots are reserved one at a time. -/
theorem Performs.mem_slots_iff (h : s.Performs operation answer t) {id : TypeId} :
    id ∈ t.slots ↔ operation.reserves = true ∧ answer = .type id ∨ id ∈ s.slots := by
  rw [Session.mem_slots_iff, Session.mem_slots_iff, h.done]
  simp only [List.mem_cons, exists_eq_or_imp]

/-- What is answered and no slot is new or shared, so that it was not reserved. -/
theorem Keeps.not_mem_slots (hkeeps : s.Keeps) (hs : s.InRange) (h : s.Performs operation answer t)
    (hroom : t.work.builder.graph.types.size ≤ 2 ^ 32) {id : TypeId} (hanswer : answer = .type id)
    (hslot : operation.slot? = none) : id ∉ s.slots := by
  have heffect := h.effect hs
  have hnew : s.work.builder.graph.IsNew t.work.builder.graph id → id ∉ s.slots := fun hnew hmem =>
    hnew.not_hasType hroom (hs.types id (slots_subset_types hmem))
  cases hkey : operation.key? with
  | none =>
    rcases (heffect.unkeyed hkey).2 id hanswer with hfilled | hentered
    · cases hslot.symm.trans hfilled
    · exact hnew hentered
  | some key =>
    obtain ⟨other, hother, ⟨hknown, _⟩ | ⟨_, hentered, _⟩⟩ := heffect.keyed key hkey
    · obtain rfl : id = other := Answer.type.inj (hanswer.symm.trans hother)
      obtain ⟨p, hp, hpkey, hpanswer⟩ := hkeeps.asked _ (mem_of_lookup hknown)
      obtain ⟨hreserves, hnone⟩ := of_key? hpkey
      exact hkeeps.apart p hp id hpanswer hreserves hnone
    · obtain rfl : id = other := Answer.type.inj (hanswer.symm.trans hother)
      exact hnew hentered

/-- What was answered before is not defined now: it would be a slot, or new. -/
theorem Keeps.kept_step (hkeeps : s.Keeps) (hs : s.InRange) (h : s.Performs operation answer t)
    (hroom : t.work.builder.graph.types.size ≤ 2 ^ 32) {p : Performance} (hp : p ∈ s.done) {id : TypeId}
    (hanswer : p.answer = .type id) (hslot : id ∉ t.slots) :
    p.graph.HasType id ∧ t.work.builder.graph.type? id = p.graph.type? id := by
  have hslots : id ∉ s.slots := fun hmem => hslot (h.mem_slots_iff.2 (.inr hmem))
  have hold := hs.hasType hp hanswer
  have hdefined : ¬operation.MayDefine s.work.builder.graph t.work.builder.graph id := by
    rintro (hfilled | hnew)
    · exact hslots (h.slot hfilled)
    · exact hnew.not_hasType hroom hold
  obtain ⟨hthere, hsame⟩ := hkeeps.kept p hp id hanswer hslots
  exact ⟨hthere, ((h.effect hs).changes_all.type?_eq hold hdefined).trans hsame⟩

/-- What was answered before is not reserved now: the slot would be new. -/
theorem Keeps.apart_step (hkeeps : s.Keeps) (hs : s.InRange) (h : s.Performs operation answer t)
    (hroom : t.work.builder.graph.types.size ≤ 2 ^ 32) {p : Performance} (hp : p ∈ s.done) {id : TypeId}
    (hanswer : p.answer = .type id) (hreserves : p.operation.reserves = false)
    (hslot : p.operation.slot? = none) : id ∉ t.slots := by
  rw [h.mem_slots_iff, not_or]
  refine ⟨?_, hkeeps.apart p hp id hanswer hreserves hslot⟩
  rintro ⟨hreserved, hnow⟩
  obtain ⟨hkey, hnone⟩ := of_reserves hreserved
  rcases ((h.effect hs).unkeyed hkey).2 id hnow with hfilled | hnew
  · cases hnone.symm.trans hfilled
  · exact hnew.not_hasType hroom (hs.hasType hp hanswer)

/-- A shared type that is answered is found afterwards. -/
theorem Performs.known (h : s.Performs operation answer t) (hs : s.InRange) {key : String} {id : TypeId}
    (hkey : operation.key? = some key) (hanswer : answer = .type id) :
    t.work.builder.shared.lookup key = some id := by
  have heffect := h.effect hs
  obtain ⟨other, hother, ⟨hknown, _⟩ | ⟨_, _, hshared⟩⟩ := heffect.keyed key hkey
  · obtain rfl : id = other := Answer.type.inj (hanswer.symm.trans hother)
    exact heffect.lookup hknown
  · obtain rfl : id = other := Answer.type.inj (hanswer.symm.trans hother)
    rw [hshared, List.lookup_cons_self]

/-- What is in the table was asked for. -/
theorem Keeps.asked_step (hkeeps : s.Keeps) (hs : s.InRange) (h : s.Performs operation answer t) :
    ∀ entry ∈ t.work.builder.shared, ∃ p ∈ t.done, p.operation.key? = some entry.1 ∧
      p.answer = .type entry.2 := by
  have hbefore : ∀ entry ∈ s.work.builder.shared, ∃ p ∈ t.done, p.operation.key? = some entry.1 ∧
      p.answer = .type entry.2 := fun entry hentry => by
    obtain ⟨p, hp, hasked⟩ := hkeeps.asked entry hentry
    exact ⟨p, h.done ▸ List.mem_cons_of_mem _ hp, hasked⟩
  rcases (h.effect hs).shared with hshared | ⟨key, id, hkey, hanswer, _, _, hshared⟩
  · rwa [hshared]
  · rw [hshared, List.forall_mem_cons]
    exact ⟨⟨_, h.done ▸ List.mem_cons_self, hkey, hanswer⟩, hbefore⟩

/-- What is remembered is new, so that no position is in the table twice. -/
theorem Keeps.distinct_step (hkeeps : s.Keeps) (hs : s.InRange) (h : s.Performs operation answer t)
    (hroom : t.work.builder.graph.types.size ≤ 2 ^ 32) :
    (t.work.builder.shared.map Prod.snd).Nodup := by
  rcases (h.effect hs).shared with hshared | ⟨key, id, _, _, _, hnew, hshared⟩
  · rw [hshared]
    exact hkeeps.distinct
  · rw [hshared, List.map_cons, List.nodup_cons]
    refine ⟨fun hmem => ?_, hkeeps.distinct⟩
    obtain ⟨entry, hentry, rfl⟩ := List.mem_map.1 hmem
    exact hnew.not_hasType hroom (hs.work.builder.shared entry hentry)

/-- **Answers stand** after one more operation, as long as positions do not come around. -/
theorem Keeps.step (hkeeps : s.Keeps) (hs : s.InRange) (h : s.Performs operation answer t)
    (hroom : t.work.builder.graph.types.size ≤ 2 ^ 32) : t.Keeps where
  kept := by
    rw [h.done, List.forall_mem_cons]
    exact ⟨fun id hanswer _ => ⟨(h.effect hs).hasType id hanswer, rfl⟩,
      fun p hp id hanswer hslot => hkeeps.kept_step hs h hroom hp hanswer hslot⟩
  apart := by
    rw [h.done, List.forall_mem_cons]
    refine ⟨fun id hanswer hreserves hslot => ?_, fun p hp id hanswer hreserves hslot =>
      hkeeps.apart_step hs h hroom hp hanswer hreserves hslot⟩
    rw [h.mem_slots_iff, not_or]
    exact ⟨by simp [show operation.reserves = false from hreserves],
      hkeeps.not_mem_slots hs h hroom hanswer hslot⟩
  known := by
    rw [h.done, List.forall_mem_cons]
    exact ⟨fun key id hkey hanswer => h.known hs hkey hanswer, fun p hp key id hkey hanswer =>
      (h.effect hs).lookup (hkeeps.known p hp key id hkey hanswer)⟩
  asked := hkeeps.asked_step hs h
  distinct := hkeeps.distinct_step hs h hroom

theorem keeps_start : Keeps {} where
  kept := List.forall_mem_nil _
  apart := List.forall_mem_nil _
  known := List.forall_mem_nil _
  asked := List.forall_mem_nil _
  distinct := .nil

/-! ## Shared types -/

/-- Two answers are one type if they were asked for by one text. -/
theorem Keeps.answers_eq_iff (h : s.Keeps) {p p' : Performance} (hp : p ∈ s.done) (hp' : p' ∈ s.done)
    {key key' : String} {id id' : TypeId} (hkey : p.operation.key? = some key)
    (hkey' : p'.operation.key? = some key') (hanswer : p.answer = .type id)
    (hanswer' : p'.answer = .type id') : id = id' ↔ key = key' := by
  have hknown := h.known p hp key id hkey hanswer
  have hknown' := h.known p' hp' key' id' hkey' hanswer'
  constructor
  · rintro rfl
    have hentry := List.inj_on_of_nodup_map h.distinct (mem_of_lookup hknown) (mem_of_lookup hknown') rfl
    exact (Prod.mk.inj hentry).1
  · rintro rfl
    exact Option.some.inj (hknown.symm.trans hknown')

end Session

/-! ## Texts of literals -/

/-- The text by which the literal is found. -/
def Literal.key? : Literal → Option String
  | .null => none
  | .bool value => (TypeKind.booleanLiteral value).key?
  | .number value => (TypeKind.numberLiteral value).key?
  | .string value => (TypeKind.stringLiteral value).key?

namespace Session

theorem Operation.exists_key {operation : Operation} {value : Literal}
    (h : operation.literal? = some value) :
    ∃ key, operation.key? = some key ∧ value.key? = some key := by
  cases operation with
  | type call => cases call with
    | stringLiteral text => cases h; exact ⟨_, rfl, rfl⟩
    | numberLiteral x => cases h; exact ⟨_, rfl, rfl⟩
    | booleanLiteral flag => cases h; exact ⟨_, rfl, rfl⟩
    | _ => cases h
  | _ => cases h

theorem Operation.key?_of_intrinsic? {operation : Operation} {asked : Intrinsic}
    (h : operation.intrinsic? = some asked) : operation.key? = some asked.key := by
  cases operation with
  | type call => cases call with
    | intrinsic other => cases h; rfl
    | _ => cases h
  | _ => cases h

end Session

/-- The first character of a key tells strings, numbers and words apart. -/
theorem Literal.head?_key {value : Literal} {key : String} (h : value.key? = some key) :
    key.toList.head? = match value with
      | .string _ => some '\x22'
      | .number _ => some '#'
      | .bool true => some 't'
      | _ => some 'f' := by
  cases value with
  | null => cases h
  | bool flag => cases flag <;> cases h <;> rfl
  | number x =>
    cases h
    rw [String.toList_append]
    rfl
  | string text =>
    cases h
    exact Text.head?_quotation text

/-- Literals with one text are the same, or both are numbers. -/
theorem Literal.eq_of_key? {value value' : Literal} {key : String} (h : value.key? = some key)
    (h' : value'.key? = some key) (hnumber : value.kind ≠ .number ∨ value'.kind ≠ .number) :
    value = value' := by
  have hhead := (head?_key h).symm.trans (head?_key h')
  cases value with
  | null => cases h
  | number x => cases value' with
    | null => cases h'
    | number y => exact absurd hnumber (by simp [kind])
    | bool flag => cases flag <;> cases hhead
    | string text => cases hhead
  | bool flag => cases value' with
    | null => cases h'
    | number y => cases flag <;> cases hhead
    | bool other => cases flag <;> cases other <;> first | rfl | cases hhead
    | string text => cases flag <;> cases hhead
  | string text => cases value' with
    | null => cases h'
    | number y => cases hhead
    | bool flag => cases flag <;> cases hhead
    | string other => rw [Text.quotation_injective (Option.some.inj (h.trans h'.symm))]

/-- No literal has the text of a type that is built in. -/
theorem Session.Intrinsic.key?_ne (asked : Session.Intrinsic) (value : Literal) :
    value.key? ≠ some asked.key := by
  intro h
  have hhead : asked.key.toList.head? ≠ some '\x22' ∧ asked.key.toList.head? ≠ some '#' := by
    cases asked with
    | keyword word => cases word <;> decide
    | date => decide
    | integer => decide
  have hwords : asked.key ≠ "true" ∧ asked.key ≠ "false" := by
    cases asked with
    | keyword word => cases word <;> decide
    | date => decide
    | integer => decide
  cases value with
  | null => cases h
  | bool flag => cases flag with
    | true => exact hwords.1 (Option.some.inj h).symm
    | false => exact hwords.2 (Option.some.inj h).symm
  | number x => exact hhead.2 (Literal.head?_key h)
  | string text => exact hhead.1 (Literal.head?_key h)

namespace Session

variable {s t : Session} {operation : Operation} {answer : Answer}

/-! ## Declarations -/

/-- The declaration of the symbol is none of the builder's: it was entered with the symbol, or an edit
moved it. -/
def Foreign (s : Session) (id : SymbolId) : Prop :=
  ∃ p ∈ s.done, (∃ symbol, p.operation = .symbol (.add symbol) ∧ p.answer = .symbol id) ∨
    ∃ change, p.operation = .edit (.modifySymbol id change) ∧ ¬KeepsPlaces change

theorem Performs.foreign (h : s.Performs operation answer t) {id : SymbolId} (hforeign : s.Foreign id) :
    t.Foreign id := by
  obtain ⟨p, hp, hmade⟩ := hforeign
  exact ⟨p, h.done ▸ List.mem_cons_of_mem _ hp, hmade⟩

theorem Performs.admits (h : s.Performs operation answer t) : operation.Admits t.Foreign s.work.builder := by
  have hlast : ∀ id, (∃ symbol, operation = .symbol (.add symbol) ∧ answer = .symbol id) ∨
      (∃ change, operation = .edit (.modifySymbol id change) ∧ ¬KeepsPlaces change) → t.Foreign id :=
    fun id hmade => ⟨_, h.done ▸ List.mem_cons_self, hmade⟩
  unfold Operation.Admits
  split
  · next symbol =>
    have hperform := h.perform
    cases hwork : s.work with
    | graph b =>
      rw [hwork] at hperform
      obtain ⟨rfl, _⟩ := Prod.mk.inj (Option.some.inj hperform)
      exact .inr (hlast _ (.inl ⟨symbol, rfl, rfl⟩))
    | object o =>
      rw [hwork] at hperform
      cases hperform
  · next id change =>
    by_cases hkeeps : KeepsPlaces change
    · exact .inl hkeeps
    · exact .inr (hlast id (.inr ⟨change, rfl, hkeeps⟩))
  · trivial

theorem placed_step (hs : s.InRange) (h : s.Performs operation answer t)
    (hplaced : ∃ count, Placed s.Foreign s.work.builder count)
    (hroom : t.work.builder.graph.symbols.size ≤ 2 ^ 30) :
    ∃ count, Placed t.Foreign t.work.builder count := by
  obtain ⟨count, hcount⟩ := hplaced
  exact ((h.effect hs).changes _ h.admits).placed (hcount.mono fun _ => h.foreign) hroom

theorem placed_start (foreign : SymbolId → Prop) : Placed foreign {} 0 := by
  have hnone : ∀ id position, ¬IsPlaced foreign {} id position := by
    rintro id position ⟨_, symbol, hsymbol, _⟩
    cases hsymbol
  exact ⟨Nat.le_refl _, rfl, fun id position h => absurd h (hnone id position),
    fun id _ position h => absurd h (hnone id position)⟩

/-! ## Sessions as a whole -/

theorem inRange_of_run {operations : List Operation} (h : run {} operations = some s) : s.InRange :=
  run_induction inRange_start (fun _ _ _ _ hs hperforms => hs.step hperforms) h

/-- What holds of a session while its graph is small enough. -/
theorem bounded_of_run {P : Session → Prop} {size : TypeGraph → Nat} {limit : Nat}
    {operations : List Operation}
    (hsize : ∀ graph larger, Within graph larger → size graph ≤ size larger) (hstart : P {})
    (hstep : ∀ s operation answer t, P s → s.InRange → s.Performs operation answer t →
      size t.work.builder.graph ≤ limit → P t)
    (h : run {} operations = some s) (hroom : size s.work.builder.graph ≤ limit) : P s := by
  have hall : s.InRange ∧ (size s.work.builder.graph ≤ limit → P s) := by
    refine run_induction (P := fun s => s.InRange ∧ (size s.work.builder.graph ≤ limit → P s))
      ⟨inRange_start, fun _ => hstart⟩ ?_ h
    rintro s operation answer t ⟨hs, hbounded⟩ hperforms
    refine ⟨hs.step hperforms, fun hroom => ?_⟩
    have hbefore := hbounded (Nat.le_trans (hsize _ _ (hperforms.within hs)) hroom)
    exact hstep s operation answer t hbefore hs hperforms hroom
  exact hall.2 hroom

/-- What holds of a session after any operations. -/
structure Sound (s : Session) : Prop where
  valid : s.work.builder.graph.validate = .ok ()
  valid_after : ∀ p ∈ s.done, p.graph.validate = .ok ()
  /-- A type that is no slot is what it was when it was answered. -/
  kept : s.work.builder.graph.types.size ≤ 2 ^ 32 → ∀ p ∈ s.done, ∀ id, p.answer = .type id →
    id ∉ s.slots → ∃ node, p.graph.type? id = some node ∧ s.work.builder.graph.type? id = some node
  /-- No operation answers a slot but those that reserve one or fill one. -/
  reserved : s.work.builder.graph.types.size ≤ 2 ^ 32 → ∀ p ∈ s.done, ∀ id, p.answer = .type id →
    p.operation.reserves = false → p.operation.slot? = none → id ∉ s.slots
  /-- String and boolean literals are one type if their values are equal. -/
  literals : s.work.builder.graph.types.size ≤ 2 ^ 32 → ∀ p ∈ s.done, ∀ p' ∈ s.done,
    ∀ value value' id id', p.operation.literal? = some value → p'.operation.literal? = some value' →
      value.kind ≠ .number ∨ value'.kind ≠ .number → p.answer = .type id → p'.answer = .type id' →
      (id = id' ↔ value = value')
  /-- No literal is a type that is built in. -/
  intrinsics : s.work.builder.graph.types.size ≤ 2 ^ 32 → ∀ p ∈ s.done, ∀ p' ∈ s.done,
    ∀ value asked id id', p.operation.literal? = some value → p'.operation.intrinsic? = some asked →
      p.answer = .type id → p'.answer = .type id' → id ≠ id'
  /-- No two symbols are declared at one source position. -/
  places : s.work.builder.graph.symbols.size ≤ 2 ^ 30 →
    ∀ id id' symbol symbol' declaration declaration', ¬s.Foreign id → ¬s.Foreign id' →
      s.work.builder.graph.symbol? id = some symbol → s.work.builder.graph.symbol? id' = some symbol' →
      symbol.declaration = some declaration → symbol'.declaration = some declaration' → id ≠ id' →
      declaration.position ≠ declaration'.position

theorem keeps_of_run {operations : List Operation} (h : run {} operations = some s)
    (hroom : s.work.builder.graph.types.size ≤ 2 ^ 32) : s.Keeps :=
  bounded_of_run (fun _ _ hwithin => hwithin.types) keeps_start
    (fun _ _ _ _ hkeeps hs hperforms hroom => hkeeps.step hs hperforms hroom) h hroom

theorem placed_of_run {operations : List Operation} (h : run {} operations = some s)
    (hroom : s.work.builder.graph.symbols.size ≤ 2 ^ 30) :
    ∃ count, Placed s.Foreign s.work.builder count :=
  bounded_of_run (fun _ _ hwithin => hwithin.symbols) ⟨0, placed_start _⟩
    (fun _ _ _ _ hplaced hs hperforms hroom => placed_step hs hperforms hplaced hroom) h hroom

/-- **Graphs that were built are valid**, after each operation.  While positions do not come around, types
stay what they were, and literals are shared by their values; while source positions do not come around,
declarations are places apart. -/
theorem run_sound {operations : List Operation} (h : run {} operations = some s) : s.Sound where
  valid := validate_eq_ok_iff.2 (inRange_of_run h).work.builder.graph
  valid_after := (inRange_of_run h).valid
  kept hroom p hp id hanswer hslot := by
    obtain ⟨hthere, hsame⟩ := (keeps_of_run h hroom).kept p hp id hanswer hslot
    exact ⟨p.graph.types[id.index.toNat], Array.getElem?_eq_getElem hthere,
      hsame.trans (Array.getElem?_eq_getElem hthere)⟩
  reserved hroom := (keeps_of_run h hroom).apart
  literals hroom p hp p' hp' value value' id id' hliteral hliteral' hnumber hanswer hanswer' := by
    obtain ⟨key, hkey, hvalue⟩ := Operation.exists_key hliteral
    obtain ⟨key', hkey', hvalue'⟩ := Operation.exists_key hliteral'
    rw [(keeps_of_run h hroom).answers_eq_iff hp hp' hkey hkey' hanswer hanswer']
    constructor
    · rintro rfl
      exact Literal.eq_of_key? hvalue hvalue' hnumber
    · rintro rfl
      exact Option.some.inj (hvalue.symm.trans hvalue')
  intrinsics hroom p hp p' hp' value asked id id' hliteral hasked hanswer hanswer' heq := by
    obtain ⟨key, hkey, hvalue⟩ := Operation.exists_key hliteral
    have hkey' := Operation.key?_of_intrinsic? hasked
    obtain rfl := ((keeps_of_run h hroom).answers_eq_iff hp hp' hkey hkey' hanswer hanswer').1 heq
    exact asked.key?_ne value hvalue
  places hroom id id' symbol symbol' declaration declaration' hown hown' hsymbol hsymbol' hd hd' hne heq := by
    obtain ⟨count, hplaced⟩ := placed_of_run h hroom
    refine hne (hplaced.apart id id' declaration.position ⟨hown, symbol, hsymbol, ?_⟩
      ⟨hown', symbol', hsymbol', ?_⟩)
    · rw [hd, Option.map_some]
    · rw [hd', heq, Option.map_some]

/-- A list that refers to itself, and an alias of it. -/
def listCalls : List Operation :=
  [.type (.intrinsic (.keyword .string)), .type (.stringLiteral "string"), .type .reserve,
    .opening (.interface "List"), .part (.property { name := "next", type := ⟨2⟩ }),
    .part (.doc "A list."), .closing (.buildInto ⟨2⟩), .type (.aliasWith "Alias" ⟨2⟩ []),
    .type (.stringLiteral "string")]

/-- The literal and the keyword are different types, and the literal is found again.  All types but the
list are what they were when they were answered. -/
theorem run_sound_listCalls : ∃ s, run {} listCalls = some s ∧
    s.types = [⟨1⟩, ⟨3⟩, ⟨2⟩, ⟨2⟩, ⟨1⟩, ⟨0⟩] ∧ s.slots = [⟨2⟩] ∧
    s.work.builder.graph.validate = .ok () ∧
    ∀ p ∈ s.done, ∀ id, p.answer = .type id → id ≠ ⟨2⟩ →
      ∃ node, p.graph.type? id = some node ∧ s.work.builder.graph.type? id = some node := by
  have hfacts : ((run {} listCalls).any fun s => decide (s.types = [⟨1⟩, ⟨3⟩, ⟨2⟩, ⟨2⟩, ⟨1⟩, ⟨0⟩] ∧
      s.slots = [⟨2⟩] ∧ s.work.builder.graph.types.size ≤ 2 ^ 32)) = true := by decide +kernel
  cases hrun : run {} listCalls with
  | none =>
    rw [hrun] at hfacts
    cases hfacts
  | some s =>
    rw [hrun] at hfacts
    obtain ⟨htypes, hslots, hroom⟩ := of_decide_eq_true hfacts
    have hsound := run_sound hrun
    refine ⟨s, rfl, htypes, hslots, hsound.valid, fun p hp id hanswer hne =>
      hsound.kept hroom p hp id hanswer ?_⟩
    rw [hslots]
    exact fun hmem => hne (List.mem_singleton.1 hmem)

end Session

end TypeSchema
