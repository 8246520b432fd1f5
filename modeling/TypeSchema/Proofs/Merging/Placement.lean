import TypeSchema.Proofs.Merging.Shifts
import TypeSchema.Proofs.Termination.Edges

/-!
# Graphs within graphs

A graph that is placed within a larger one keeps its types and symbols, but at other positions: a
`Shift` away.  `TypeGraph.Placed` says so of two graphs, by what is looked up in them.  Nothing that
is asked about a type depends on where it stands, so the larger graph answers every question about a
type that was moved as the smaller one answers it about the type: how it is printed
(`Placed.refound_typeText`), whether it is raw, what it wraps.

The number of levels through which wrappers are looked at is that of the types, so it differs between
the two graphs.  It does not matter: wrappers that are not looked through within as many levels as
there are types hold each other, and are not looked through within any number of levels
(`unwrapsWithin_size`, `Placed.unwrap_endless`).
-/

set_option autoImplicit false

namespace TypeSchema

/-! ## Placed graphs -/

/-- Whatever is found in the first graph is found in the second one, at its new place. -/
structure TypeGraph.Placed (shift : Shift) (graph larger : TypeGraph) : Prop where
  type : ∀ {id node}, graph.lookupType id = .ok node →
    larger.lookupType (shift.type id) = .ok (shift.node node)
  symbol : ∀ {id symbol}, graph.lookupSymbol id = .ok symbol →
    larger.lookupSymbol (shift.symbol id) = .ok symbol
  types_le : graph.types.size ≤ larger.types.size
  symbols_le : graph.symbols.size ≤ larger.symbols.size

/-- What the first lookup finds, the second one finds in the same way. -/
def Refound {α β : Type} (R : α → β → Prop) (lookup : Except Missing α)
    (lookup' : Except Missing β) : Prop :=
  ∀ a, lookup = .ok a → ∃ b, lookup' = .ok b ∧ R a b

/-- What was moved is the same. -/
abbrev Same {α : Type} (a b : α) : Prop :=
  b = a

namespace Refound

variable {α β γ δ : Type} {R : α → β → Prop} {S : γ → δ → Prop} {lookup : Except Missing α}
  {lookup' : Except Missing β}

theorem pure {a : α} {b : β} (h : R a b) : Refound R (Pure.pure a) (Pure.pure b) := by
  rintro _ ⟨rfl⟩
  exact ⟨b, rfl, h⟩

theorem bind {f : α → Except Missing γ} {f' : β → Except Missing δ} (h : Refound R lookup lookup')
    (hf : ∀ a b, R a b → Refound S (f a) (f' b)) : Refound S (lookup >>= f) (lookup' >>= f') := by
  intro c hc
  cases lookup with
  | error missing => cases hc
  | ok a =>
    obtain ⟨b, rfl, hab⟩ := h a rfl
    exact hf a b hab c hc

theorem map {f : α → γ} {f' : β → δ} (h : Refound R lookup lookup')
    (hf : ∀ a b, R a b → S (f a) (f' b)) :
    Refound S (do return f (← lookup)) (do return f' (← lookup')) :=
  h.bind fun a b hab => .pure (hf a b hab)

/-- Lookups one after the other. -/
theorem mapM {f : α → Except Missing γ} {f' : β → Except Missing δ} {move : α → β} {g : γ → δ}
    (l : List α) (h : ∀ a ∈ l, Refound (fun c d => d = g c) (f a) (f' (move a))) :
    Refound (fun cs ds => ds = cs.map g) (l.mapM f) ((l.map move).mapM f') := by
  induction l with
  | nil =>
    rw [List.map_nil, List.mapM_nil, List.mapM_nil]
    exact .pure rfl
  | cons a rest ih =>
    obtain ⟨hfirst, hrest⟩ := List.forall_mem_cons.1 h
    rw [List.map_cons, List.mapM_cons, List.mapM_cons]
    refine hfirst.bind ?_
    rintro c _ rfl
    refine (ih hrest).map ?_
    rintro cs _ rfl
    rfl

end Refound

namespace TypeGraph.Placed

variable {shift : Shift} {graph larger : TypeGraph} (h : graph.Placed shift larger)

/-- A graph is placed within itself. -/
theorem refl (graph : TypeGraph) : graph.Placed .zero graph where
  type hnode := by simpa using hnode
  symbol hsymbol := by simpa using hsymbol
  types_le := le_refl _
  symbols_le := le_refl _

include h

theorem refound_type (id : TypeId) : Refound (fun node node' => node' = shift.node node)
    (graph.lookupType id) (larger.lookupType (shift.type id)) :=
  fun node hnode => ⟨shift.node node, h.type hnode, rfl⟩

theorem refound_symbol (id : SymbolId) :
    Refound Same (graph.lookupSymbol id) (larger.lookupSymbol (shift.symbol id)) :=
  fun symbol hsymbol => ⟨symbol, h.symbol hsymbol, rfl⟩

/-! ## Printing -/

section Printing

variable {child child' : TypeId → Except Missing String}
  (hchild : ∀ id, Refound Same (child id) (child' (shift.type id)))

include hchild

omit h in
theorem refound_texts (ids : List TypeId) :
    Refound Same (ids.mapM child) ((ids.map shift.type).mapM child') := by
  intro texts htexts
  obtain ⟨_, hmoved, rfl⟩ := Refound.mapM (g := id) ids (fun id _ => hchild id) texts htexts
  exact ⟨texts.map id, hmoved, List.map_id texts⟩

theorem refound_propertyText (p : Property) :
    Refound Same (graph.propertyText child p)
      (larger.propertyText child' (shift.property p)) := by
  refine (h.refound_symbol p.symbol).bind ?_
  rintro _ symbol rfl
  refine (hchild p.type).map ?_
  rintro _ text rfl
  rfl

theorem refound_propertyTexts (properties : List Property) :
    Refound Same (properties.mapM (graph.propertyText child))
      ((properties.map shift.property).mapM (larger.propertyText child')) := by
  intro texts htexts
  obtain ⟨_, hmoved, rfl⟩ := Refound.mapM (g := id) properties
    (fun p _ => h.refound_propertyText hchild p) texts htexts
  exact ⟨texts.map id, hmoved, List.map_id texts⟩

/-- A type without a name is printed alike at both places. -/
theorem refound_structureText (node : TypeNode) :
    Refound Same (graph.structureText child node)
      (larger.structureText child' (shift.node node)) := by
  rw [structureText.eq_def, structureText.eq_def, Shift.kind_node, Shift.numberIndex_node]
  cases node.kind with
  | union members =>
    refine (refound_texts hchild members).map ?_
    rintro _ texts rfl
    rfl
  | intersection members =>
    refine (refound_texts hchild members).map ?_
    rintro _ texts rfl
    rfl
  | tuple elements minLength hasRest =>
    refine (refound_texts hchild elements).map ?_
    rintro _ texts rfl
    rfl
  | object properties anonymous index =>
    cases node.numberIndex with
    | some element =>
      refine (h.refound_type element).bind ?_
      rintro elementNode _ rfl
      refine (hchild element).map ?_
      rintro _ text rfl
      rw [Shift.isComposite_node]
    | none =>
      simp only [Shift.kind, Option.map_none, List.isEmpty_map, Option.isNone_map]
      split
      · exact .pure rfl
      · cases index with
        | none =>
          refine (h.refound_propertyTexts hchild properties).map ?_
          rintro _ texts rfl
          rfl
        | some value =>
          refine (hchild value).bind ?_
          rintro _ text rfl
          refine (h.refound_propertyTexts hchild properties).map ?_
          rintro _ texts rfl
          rfl
  | _ => exact .pure rfl

theorem refound_nodeText (node : TypeNode) :
    Refound Same (graph.nodeText child node) (larger.nodeText child' (shift.node node)) := by
  rw [nodeText, nodeText, Shift.aliasSymbol_node]
  cases node.aliasSymbol with
  | some aliasSymbol =>
    refine (h.refound_symbol aliasSymbol).bind ?_
    rintro _ symbol rfl
    rw [Shift.aliasArguments_node, List.isEmpty_map]
    split
    · exact .pure rfl
    · refine (refound_texts hchild node.aliasArguments).map ?_
      rintro _ texts rfl
      rfl
  | none =>
    rw [Shift.isAnonymousObject_node, Shift.symbol_node]
    have hnamed : (if node.isAnonymousObject = true then none
        else node.symbol.map shift.symbol) =
        (if node.isAnonymousObject = true then none else node.symbol).map shift.symbol := by
      split <;> rfl
    simp only [Option.map_none, hnamed]
    cases if node.isAnonymousObject = true then none else node.symbol with
    | some own =>
      refine (h.refound_symbol own).map ?_
      rintro _ symbol rfl
      rfl
    | none => exact h.refound_structureText hchild node

end Printing

theorem refound_print (levels : Nat) (id : TypeId) :
    Refound Same (graph.print levels id) (larger.print levels (shift.type id)) := by
  induction levels generalizing id with
  | zero => exact .pure rfl
  | succ levels ih =>
    refine (h.refound_type id).bind ?_
    rintro node _ rfl
    exact h.refound_nodeText ih node

/-- **Types are printed alike at both places.** -/
theorem refound_typeText (id : TypeId) :
    Refound Same (graph.typeText id) (larger.typeText (shift.type id)) :=
  h.refound_print printedLevels id

/-! ## Questions about types -/

theorem refound_declaringSymbol (node : TypeNode) :
    Refound Same (graph.declaringSymbol node) (larger.declaringSymbol (shift.node node)) := by
  rw [declaringSymbol, declaringSymbol, Shift.namingSymbol_node]
  cases node.namingSymbol with
  | none => exact .pure rfl
  | some id =>
    refine (h.refound_symbol id).map ?_
    rintro _ symbol rfl
    rfl

theorem refound_isBranded (id : SymbolId) :
    Refound Same (graph.isBranded id) (larger.isBranded (shift.symbol id)) := by
  refine (h.refound_symbol id).map ?_
  rintro _ symbol rfl
  rfl

theorem refound_isRaw (node : TypeNode) :
    Refound Same (graph.isRaw node) (larger.isRaw (shift.node node)) := by
  rw [isRaw.eq_def, isRaw.eq_def, Shift.kind_node, Shift.symbol_node, Shift.numberIndex_node]
  cases node.kind with
  | enum members => exact .pure rfl
  | object properties anonymous index =>
    simp only [Shift.kind, Option.isSome_map]
    split
    · exact .pure rfl
    · cases node.symbol with
      | some id => exact h.refound_isBranded id
      | none => exact .pure rfl
  | _ =>
    cases node.symbol with
    | some id => exact h.refound_isBranded id
    | none => exact .pure rfl

theorem refound_isStringUnion (node : TypeNode) :
    Refound Same (graph.isStringUnion node) (larger.isStringUnion (shift.node node)) := by
  rw [isStringUnion.eq_def, isStringUnion.eq_def, Shift.kind_node]
  cases node.kind with
  | union members =>
    refine (Refound.mapM members fun id _ => h.refound_type id).map ?_
    rintro nodes _ rfl
    simp only [List.all_map]
    congr 1
    funext member
    obtain ⟨kind⟩ := member
    cases kind <;> rfl
  | _ => exact .pure rfl

theorem refound_wrapped? (node : TypeNode) :
    Refound (fun inner inner' => inner' = inner.map shift.type) (graph.wrapped? node)
      (larger.wrapped? (shift.node node)) := by
  rw [wrapped?.eq_def, wrapped?.eq_def, Shift.aliasSymbol_node, Shift.aliasArguments_node]
  cases node.aliasSymbol with
  | none => exact .pure rfl
  | some aliasSymbol =>
    cases node.aliasArguments with
    | nil => exact .pure rfl
    | cons inner rest =>
      refine (h.refound_symbol aliasSymbol).map ?_
      rintro _ symbol rfl
      split <;> rfl

end TypeGraph.Placed

/-! ## Wrappers -/

namespace TypeGraph

variable {graph : TypeGraph} {id inner : TypeId} {levels more : Nat} {named : Option SymbolId}

/-- Looking through wrappers fails where something is missing or where there is no end to them. -/
theorem unwrap_error {error : Error} (h : graph.unwrap levels id named = .error error) :
    (∃ missing, error = .missing missing) ∨ ∃ last, error = .endlessType last := by
  induction levels generalizing id named with
  | zero => exact .inr ⟨id, (Except.error.inj h).symm⟩
  | succ levels ih =>
    rcases unwrap_succ levels id named with ⟨missing, heq⟩ | ⟨inner, _, heq⟩ |
      ⟨node, _, _, heq⟩
    · exact .inl ⟨missing, (Except.error.inj (heq.symm.trans h)).symm⟩
    · exact ih (heq ▸ h)
    · rw [heq] at h; cases h

/-- The wrappers around what the type holds are no more than the levels allow for, unless something
is missing. -/
def UnwrapsWithin (graph : TypeGraph) (levels : Nat) (id : TypeId) : Prop :=
  ∀ named last, graph.unwrap levels id named ≠ .error (.endlessType last)

theorem not_unwrapsWithin_zero : ¬graph.UnwrapsWithin 0 id :=
  fun h => h none id rfl

theorem unwrapsWithin_succ_iff :
    graph.UnwrapsWithin (levels + 1) id ↔
      ∀ inner, graph.Wraps id inner → graph.UnwrapsWithin levels inner := by
  constructor
  · intro h inner hwraps named last hendless
    cases levels with
    | zero => exact h none inner (by rw [unwrap_of_wraps _ _ hwraps, unwrap])
    | succ levels =>
      rcases unwrap_succ levels inner named with ⟨missing, heq⟩ | ⟨next, hnext, heq⟩ |
        ⟨node, _, _, heq⟩
      · rw [heq] at hendless; cases hendless
      · refine h none last ?_
        rw [unwrap_of_wraps _ _ hwraps, unwrap_of_wraps _ _ hnext, ← heq, hendless]
      · rw [heq] at hendless; cases hendless
  · intro h named last hendless
    rcases unwrap_succ levels id named with ⟨missing, heq⟩ | ⟨inner, hwraps, heq⟩ |
      ⟨node, _, _, heq⟩
    · rw [heq] at hendless; cases hendless
    · exact h inner hwraps none last (heq ▸ hendless)
    · rw [heq] at hendless; cases hendless

theorem UnwrapsWithin.mono (h : graph.UnwrapsWithin levels id) (hle : levels ≤ more) :
    graph.UnwrapsWithin more id := by
  induction levels generalizing more id with
  | zero => exact absurd h not_unwrapsWithin_zero
  | succ levels ih =>
    obtain ⟨more, rfl⟩ := Nat.exists_eq_add_of_le' (Nat.one_le_of_lt hle)
    rw [unwrapsWithin_succ_iff] at h ⊢
    exact fun inner hwraps => ih (h inner hwraps) (Nat.le_of_succ_le_succ hle)

/-- There are fewer wrappers around what the second type holds than around what the first one
holds. -/
def Outside (graph : TypeGraph) (id inner : TypeId) : Prop :=
  ∃ levels, graph.UnwrapsWithin levels inner ∧ ¬graph.UnwrapsWithin levels id

theorem not_outside_self : ¬graph.Outside id id :=
  fun ⟨_, h, hnot⟩ => hnot h

instance : Trans graph.Outside graph.Outside graph.Outside where
  trans := by
    rintro a b c ⟨levels, hb, ha⟩ ⟨fewer, hc, hb'⟩
    refine ⟨levels, hc.mono ?_, ha⟩
    by_contra hlt
    exact hb' (hb.mono (Nat.le_of_not_le hlt))

/-- The least number of levels within which a wrapper is looked through is not enough for what it is
around. -/
theorem UnwrapsWithin.outside (h : graph.UnwrapsWithin levels id) (hwraps : graph.Wraps id inner) :
    graph.Outside id inner ∧ ∃ levels, graph.UnwrapsWithin levels inner := by
  induction levels with
  | zero => exact absurd h not_unwrapsWithin_zero
  | succ levels ih =>
    have hinner := unwrapsWithin_succ_iff.1 h inner hwraps
    by_cases hsooner : graph.UnwrapsWithin levels id
    · exact ih hsooner
    · exact ⟨⟨levels, hinner, hsooner⟩, levels, hinner⟩

theorem isChain_outside {way : List TypeId} (hway : way.IsChain graph.Wraps)
    (hhead : ∀ a ∈ way.head?, ∃ levels, graph.UnwrapsWithin levels a) :
    way.IsChain graph.Outside := by
  induction way with
  | nil => exact .nil
  | cons a rest ih =>
    rw [List.isChain_cons] at hway ⊢
    obtain ⟨levels, ha⟩ := hhead a rfl
    exact ⟨fun b hb => (ha.outside (hway.1 b hb)).1,
      ih hway.2 fun b hb => (ha.outside (hway.1 b hb)).2⟩

/-- **Wrappers are looked through within as many levels as there are types, or not at all.** -/
theorem unwrapsWithin_size (h : graph.UnwrapsWithin levels id) :
    graph.UnwrapsWithin (graph.types.size + 1) id := by
  intro named last hendless
  obtain ⟨way, hlength, hway, hwrappers, hhead⟩ := exists_wrappers hendless
  have hle := length_le_of_isChain (fun _ => not_outside_self)
    (isChain_outside hway fun a ha => ⟨levels, hhead a ha ▸ h⟩) fun a ha => by
      obtain ⟨b, node, hnode, _⟩ := hwrappers a ha
      exact mem_ids hnode
  omega

/-- A type holds what its wrapper is around, and nothing else. -/
theorem Wraps.unique {other : TypeId} (h : graph.Wraps id inner) (hother : graph.Wraps id other) :
    other = inner := by
  obtain ⟨node, hnode, hwrapped⟩ := h
  obtain ⟨node', hnode', hwrapped'⟩ := hother
  obtain rfl := Except.ok.inj (hnode.symm.trans hnode')
  exact Option.some.inj (Except.ok.inj (hwrapped'.symm.trans hwrapped))

/-- Where wrappers are not looked through, the type is one, around a type of which the same is
true. -/
theorem exists_wraps (h : ∀ levels, ¬graph.UnwrapsWithin levels id) :
    ∃ inner, graph.Wraps id inner ∧ ∀ levels, ¬graph.UnwrapsWithin levels inner := by
  have hfirst := h 1
  simp only [unwrapsWithin_succ_iff, not_forall] at hfirst
  obtain ⟨inner, hwraps, _⟩ := hfirst
  refine ⟨inner, hwraps, fun levels hwithin => h (levels + 1) ?_⟩
  rw [unwrapsWithin_succ_iff]
  exact fun other hother => hwraps.unique hother ▸ hwithin

namespace Placed

variable {shift : Shift} {larger : TypeGraph} (h : graph.Placed shift larger)

include h

theorem wraps (hwraps : graph.Wraps id inner) :
    larger.Wraps (shift.type id) (shift.type inner) := by
  obtain ⟨node, hnode, hwrapped⟩ := hwraps
  obtain ⟨_, hmoved, rfl⟩ := h.refound_wrapped? node _ hwrapped
  exact ⟨shift.node node, h.type hnode, hmoved⟩

/-- What is found inside the wrappers is found at its new place. -/
theorem unwrap_subject {subject : Subject} (hsubject : graph.unwrap levels id named = .ok subject)
    (hle : levels ≤ more) :
    larger.unwrap more (shift.type id) (named.map shift.symbol) = .ok (shift.subject subject) := by
  induction levels generalizing more id named with
  | zero => cases hsubject
  | succ levels ih =>
    obtain ⟨more, rfl⟩ := Nat.exists_eq_add_of_le' (Nat.one_le_of_lt hle)
    rcases unwrap_succ levels id named with ⟨missing, heq⟩ | ⟨inner, hwraps, heq⟩ |
      ⟨node, hnode, hwrapped, heq⟩
    · rw [heq] at hsubject; cases hsubject
    · rw [unwrap_of_wraps _ _ (h.wraps hwraps)]
      exact ih (heq ▸ hsubject) (Nat.le_of_succ_le_succ hle)
    · rw [heq] at hsubject
      cases hsubject
      obtain ⟨_, hmoved, rfl⟩ := h.refound_wrapped? node _ hwrapped
      exact unwrap_of_not_wrapped _ _ (h.type hnode) hmoved

/-- Where there is no end to the wrappers, there is none at the new place. -/
theorem unwrap_endless {last : TypeId}
    (hendless : graph.unwrap (graph.types.size + 1) id named = .error (.endlessType last))
    (named' : Option SymbolId) :
    ∃ last', larger.unwrap more (shift.type id) named' = .error (.endlessType last') := by
  have hnever : ∀ levels, ¬graph.UnwrapsWithin levels id :=
    fun levels hwithin => unwrapsWithin_size hwithin named last hendless
  clear hendless
  induction more generalizing id named' with
  | zero => exact ⟨shift.type id, rfl⟩
  | succ more ih =>
    obtain ⟨inner, hwraps, hinner⟩ := exists_wraps hnever
    rw [unwrap_of_wraps _ _ (h.wraps hwraps)]
    exact ih none hinner

end Placed

end TypeGraph

end TypeSchema
