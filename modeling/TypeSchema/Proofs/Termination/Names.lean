import Mathlib.Tactic.Ring
import TypeSchema.Proofs.Termination.Edges

/-!
# How many names there are

A construction is guarded by its name, so how deep constructions can be nested depends on how many
names there are.  The registry alone could go on numbering for ever; that it does not is because a type
that asks again is given the name it had (`NameRegistry.Settled`).  So there are no more names in the
registry than pairs of a type and a base, and the names that are made without it add one for each that
is in it, for the hash, and two for each symbol, as an alias and as the key of an override.
-/

set_option autoImplicit false

namespace TypeSchema

/-- A registry in which the names of a graph's types were entered. -/
structure Supplied (catalog : Catalog) (names : NameRegistry) : Prop where
  sound : names.Sound
  settled : names.Settled catalog.bases
  types : ∀ name id, Dict.get? names.holders name = some id → id ∈ catalog.graph.ids

namespace Supplied

variable {catalog : Catalog} {names : NameRegistry} {p q : Progress}

theorem empty : Supplied catalog {} where
  sound := NameRegistry.sound_empty
  settled := NameRegistry.settled_empty
  types _ _ h := by cases h

/-- A name is handed out to a type of the graph. -/
theorem makeUnique (h : Supplied catalog names) {id : TypeId} {node : TypeNode} {base : String}
    (htype : catalog.graph.lookupType id = .ok node) (hbase : base ∈ catalog.bases id) :
    Supplied catalog (names.makeUnique id base).2 where
  sound := h.sound.makeUnique id base
  settled := h.settled.makeUnique hbase
  types name holder hname := by
    by_cases heq : (names.makeUnique id base).1 = name
    · subst heq
      rw [NameRegistry.get?_holders_makeUnique] at hname
      exact Option.some.inj hname ▸ TypeGraph.mem_ids htype
    · refine h.types name holder ?_
      simpa [NameRegistry.makeUnique, NameRegistry.assign, Dict.get?_insert,
        show ¬NameRegistry.candidate base (names.openNumber id base) = name from heq] using hname

theorem step (h : Supplied catalog p.context.names) (hstep : catalog.Step p q) :
    Supplied catalog q.context.names := by
  cases hstep with
  | noted entry => exact h
  | named htype hbase hfresh => exact h.makeUnique htype hbase
  | entered name => exact h
  | left name token =>
    obtain ⟨guard, hleave⟩ := p.context.leave_eq name token
    rw [hleave]
    exact h
  | @dropped owner _ =>
    obtain ⟨absent, hmark⟩ := p.context.markAbsent_eq owner
    rw [Progress.act_context, Event.effect, hmark]
    exact h
  | listed _ => exact h
  | referred _ => exact h
  | promoted _ _ => exact h

theorem length_flatMap_le {α β : Type} {f : α → List β} {k : Nat} {l : List α}
    (h : ∀ a ∈ l, (f a).length ≤ k) : (l.flatMap f).length ≤ l.length * k := by
  induction l with
  | nil => simp
  | cons first rest ih =>
    have hfirst := h first List.mem_cons_self
    have hrest := ih fun a ha => h a (List.mem_cons_of_mem _ ha)
    rw [List.flatMap_cons, List.length_append, List.length_cons, Nat.succ_mul]
    omega

/-- A type has one base for each symbol, and its printed form. -/
theorem length_bases_le (id : TypeId) :
    (catalog.bases id).length ≤ catalog.graph.symbols.size + 1 := by
  rw [Catalog.bases, List.length_append, List.length_map]
  split <;> simp [Nat.add_comm]

theorem length_holders_le (h : Supplied catalog names) :
    names.holders.length ≤ catalog.graph.types.size * (catalog.graph.symbols.size + 1) := by
  have hle := h.settled.length_holders_le h.sound _ h.types
  refine hle.trans ?_
  rw [← TypeGraph.length_ids]
  exact length_flatMap_le fun id _ => length_bases_le id

end Supplied

/-! ## The names a definition can have -/

namespace Catalog

variable (catalog : Catalog)

/-- A name of the registry with the hash of the declaration that names its holder. -/
def withHash (entry : String × TypeId) : String :=
  match catalog.graph.lookupType entry.2 with
  | .error _ => entry.1
  | .ok node => match catalog.graph.declaringSymbol node with
    | .ok (some symbol) => match symbol.declaration with
      | some declaration => entry.1 ++ "." ++ declaration.hash
      | none => entry.1
    | _ => entry.1

/-- The name that an alias has with the hash of its declaration. -/
def aliasWithHash (symbol : Symbol) : String :=
  match symbol.declaration with
  | some declaration => canonicalName symbol.fullName ++ "." ++ declaration.hash
  | none => canonicalName symbol.fullName

/-- The names that definitions can have. -/
def supply (names : NameRegistry) : List String :=
  (Dict.keys names.holders ++ names.holders.map catalog.withHash) ++
    (catalog.graph.symbols.toList.map aliasWithHash ++
      catalog.graph.symbols.toList.map Symbol.name)

variable {catalog}

theorem Named.mem_supply {names : NameRegistry} {subject : Subject} {name : SourcedName}
    (h : catalog.Named names subject name)
    (hnode : catalog.graph.lookupType subject.id = .ok subject.node) :
    name.text ∈ catalog.supply names := by
  rw [supply]
  cases h with
  | registry hheld =>
    exact List.mem_append_left _ (List.mem_append_left _
      (Dict.contains_iff_mem_keys.1 (Dict.contains_of_get? hheld)))
  | @declaration name _ declaration _ hsymbol hdeclaration hheld =>
    have hname : catalog.withHash (name, subject.id) = name ++ "." ++ declaration.hash := by
      simp only [withHash, hnode, hsymbol, hdeclaration]
    exact List.mem_append_left _ (List.mem_append_right _
      (List.mem_map.2 ⟨_, Dict.mem_of_get? hheld, hname⟩))
  | @aliasDeclaration _ symbol declaration _ _ hsymbol hdeclaration =>
    have hname : aliasWithHash symbol =
        canonicalName symbol.fullName ++ "." ++ declaration.hash := by
      simp only [aliasWithHash, hdeclaration]
    exact List.mem_append_right _ (List.mem_append_left _
      (List.mem_map.2 ⟨symbol, TypeGraph.mem_symbols hsymbol, hname⟩))
  | override _ hsymbol _ =>
    exact List.mem_append_right _ (List.mem_append_right _
      (List.mem_map_of_mem (TypeGraph.mem_symbols hsymbol)))

/-- There are no more names than the bound on the depth allows for. -/
theorem length_supply_le {names : NameRegistry} (h : Supplied catalog names) :
    (catalog.supply names).length ≤
      2 * ((catalog.graph.types.size + 1) * (catalog.graph.symbols.size + 2)) := by
  have hholders := h.length_holders_le
  have hexpand : (catalog.graph.types.size + 1) * (catalog.graph.symbols.size + 2) =
      catalog.graph.types.size * (catalog.graph.symbols.size + 1) + catalog.graph.types.size +
        catalog.graph.symbols.size + 2 := by ring
  rw [hexpand]
  simp only [supply, Dict.keys, List.length_append, List.length_map, Array.length_toList]
  omega

end Catalog

end TypeSchema
