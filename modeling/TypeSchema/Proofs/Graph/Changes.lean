import Mathlib.Algebra.Group.Nat.Defs
import Mathlib.Logic.Relation
import TypeSchema.Graph.Builder
import TypeSchema.Proofs.Graph.Ranges

/-!
# What is done to a graph in the making

Every operation of a builder comes down to a few changes of the graph: a type or a symbol is entered, a
slot is filled, a name is declared, a symbol is edited in place (`GraphBuilder.Change`).  What any of them
leaves as it was is shown here once.  Positions stay in range (`Changes.inRange`), a type stays what it is
unless it is defined (`Changes.type?_eq`), and declarations are places apart (`Changes.placed`).

Positions are numbers of 32 bits.  Source positions go up in steps of a hundred, so that they come around
after `2 ^ 30` declarations.
-/

set_option autoImplicit false

namespace TypeSchema

namespace TypeGraph

variable {graph larger largest : TypeGraph} {node : TypeNode}

/-! ## Graphs that grow -/

/-- Types and symbols that are there stay there. -/
structure Within (graph larger : TypeGraph) : Prop where
  types : graph.types.size ≤ larger.types.size
  symbols : graph.symbols.size ≤ larger.symbols.size

namespace Within

theorem refl (graph : TypeGraph) : graph.Within graph := ⟨Nat.le_refl _, Nat.le_refl _⟩

theorem trans (h : graph.Within larger) (h' : larger.Within largest) : graph.Within largest :=
  ⟨Nat.le_trans h.types h'.types, Nat.le_trans h.symbols h'.symbols⟩

theorem hasType (h : graph.Within larger) {id : TypeId} (hid : graph.HasType id) : larger.HasType id :=
  Nat.lt_of_lt_of_le hid h.types

theorem hasSymbol (h : graph.Within larger) {id : SymbolId} (hid : graph.HasSymbol id) :
    larger.HasSymbol id :=
  Nat.lt_of_lt_of_le hid h.symbols

theorem nodeInRange (h : graph.Within larger) (hnode : graph.NodeInRange node) : larger.NodeInRange node := by
  obtain ⟨htypes, hsymbols⟩ := nodeInRange_iff.1 hnode
  exact nodeInRange_iff.2
    ⟨fun id hid => h.hasType (htypes id hid), fun id hid => h.hasSymbol (hsymbols id hid)⟩

end Within

theorem InRange.of_type? (h : graph.InRange) {id : TypeId} (hnode : graph.type? id = some node) :
    graph.NodeInRange node :=
  h.types node (Array.mem_toList_iff.2 (Array.mem_of_getElem? hnode))

end TypeGraph

namespace GraphBuilder

variable {b c : GraphBuilder} {slot : TypeId → Prop} {foreign : SymbolId → Prop}

/-! ## Changes -/

/-- The position that is given to the next type. -/
def freshType (b : GraphBuilder) : TypeId :=
  ⟨UInt32.ofNat b.graph.types.size⟩

/-- The position that is given to the next symbol. -/
def freshSymbol (b : GraphBuilder) : SymbolId :=
  ⟨UInt32.ofNat b.graph.symbols.size⟩

/-- An edit of symbols that leaves their declarations where they are. -/
def KeepsPlaces (change : Symbol → Symbol) : Prop :=
  ∀ s, (change s).declaration.map Declaration.position = s.declaration.map Declaration.position

/-- One thing that is done to a graph in the making.  The types that are defined are slots, and where the
declaration of a symbol is not the builder's own, the symbol is foreign. -/
inductive Change (slot : TypeId → Prop) (foreign : SymbolId → Prop) (b : GraphBuilder) :
    GraphBuilder → Prop
  | inFile (file : String) : Change slot foreign b (b.inFile file)
  | diagnostic (d : Diagnostic) : Change slot foreign b (b.diagnostic d)
  | addType {node : TypeNode} (hnode : b.graph.NodeInRange node) :
      Change slot foreign b (b.addType node).2
  | addSymbol {symbol : Symbol} (hplace : symbol.declaration = none ∨ foreign b.freshSymbol) :
      Change slot foreign b (b.addSymbol symbol).2
  | declaredSymbol (name : String) (kind : DeclarationKind) :
      Change slot foreign b (b.declaredSymbol name kind).2
  | define {id : TypeId} {node : TypeNode} (hslot : slot id) (hnode : b.graph.NodeInRange node) :
      Change slot foreign b (b.define id node)
  | declare (name : String) {id : TypeId} (hid : b.graph.HasType id) :
      Change slot foreign b (b.declare name id)
  | modifySymbol {id : SymbolId} {change : Symbol → Symbol}
      (hplace : KeepsPlaces change ∨ foreign id) : Change slot foreign b (b.modifySymbol id change)
  | remember (key : String) {id : TypeId} (hid : b.graph.HasType id) :
      Change slot foreign b { b with shared := (key, id) :: b.shared }

/-- Changes one after the other. -/
abbrev Changes (slot : TypeId → Prop) (foreign : SymbolId → Prop) : GraphBuilder → GraphBuilder → Prop :=
  Relation.ReflTransGen (Change slot foreign)

theorem Change.within (h : Change slot foreign b c) : b.graph.Within c.graph := by
  cases h with
  | addType => exact ⟨by simp [GraphBuilder.addType], Nat.le_refl _⟩
  | addSymbol => exact ⟨Nat.le_refl _, by simp [GraphBuilder.addSymbol]⟩
  | declaredSymbol =>
    exact ⟨Nat.le_refl _, by simp [GraphBuilder.declaredSymbol, GraphBuilder.addSymbol]⟩
  | define => exact ⟨by simp [GraphBuilder.define], Nat.le_refl _⟩
  | modifySymbol => exact ⟨Nat.le_refl _, by simp [GraphBuilder.modifySymbol]⟩
  | _ => exact ⟨Nat.le_refl _, Nat.le_refl _⟩

theorem Changes.within (h : Changes slot foreign b c) : b.graph.Within c.graph := by
  induction h with
  | refl => exact .refl _
  | tail _ hchange ih => exact ih.trans hchange.within

/-! ## Positions in range -/

theorem hasType_freshType (b : GraphBuilder) (node : TypeNode) :
    (b.addType node).2.graph.HasType b.freshType := by
  have hmod := Nat.mod_le b.graph.types.size UInt32.size
  simp only [TypeGraph.HasType, GraphBuilder.addType, Array.size_push, freshType, UInt32.toNat_ofNat']
  exact Nat.lt_succ_of_le hmod

theorem hasSymbol_freshSymbol (b : GraphBuilder) (symbol : Symbol) :
    (b.addSymbol symbol).2.graph.HasSymbol b.freshSymbol := by
  have hmod := Nat.mod_le b.graph.symbols.size UInt32.size
  simp only [TypeGraph.HasSymbol, GraphBuilder.addSymbol, Array.size_push, freshSymbol,
    UInt32.toNat_ofNat']
  exact Nat.lt_succ_of_le hmod

/-- Every position in the graph and in the table of shared types is in range. -/
structure InRange (b : GraphBuilder) : Prop where
  graph : b.graph.InRange
  shared : ∀ entry ∈ b.shared, b.graph.HasType entry.2

theorem Change.inRange (h : Change slot foreign b c) (hb : b.InRange) : c.InRange := by
  have hwithin := h.within
  have hold : ∀ node ∈ b.graph.types.toList, c.graph.NodeInRange node :=
    fun node hnode => hwithin.nodeInRange (hb.graph.types node hnode)
  have hdeclared : ∀ entry ∈ b.graph.declarations, c.graph.HasType entry.2 :=
    fun entry hentry => hwithin.hasType (hb.graph.declarations entry hentry)
  have hshared : ∀ entry ∈ b.shared, c.graph.HasType entry.2 :=
    fun entry hentry => hwithin.hasType (hb.shared entry hentry)
  cases h with
  | inFile => exact ⟨⟨hold, hdeclared⟩, hshared⟩
  | diagnostic => exact ⟨⟨hold, hdeclared⟩, hshared⟩
  | addSymbol => exact ⟨⟨hold, hdeclared⟩, hshared⟩
  | declaredSymbol => exact ⟨⟨hold, hdeclared⟩, hshared⟩
  | modifySymbol => exact ⟨⟨hold, hdeclared⟩, hshared⟩
  | @addType node hnode =>
    refine ⟨⟨fun other hother => ?_, hdeclared⟩, hshared⟩
    rw [GraphBuilder.addType, Array.toList_push, List.mem_append, List.mem_singleton] at hother
    rcases hother with hother | rfl
    · exact hold other hother
    · exact hwithin.nodeInRange hnode
  | @define id node _ hnode =>
    refine ⟨⟨fun other hother => ?_, hdeclared⟩, hshared⟩
    rw [GraphBuilder.define, Array.toList_setIfInBounds] at hother
    rcases List.mem_or_eq_of_mem_set hother with hother | rfl
    · exact hold other hother
    · exact hwithin.nodeInRange hnode
  | declare name hid =>
    exact ⟨⟨hold, Dict.forall_mem_insert hdeclared hid⟩, hshared⟩
  | remember key hid =>
    exact ⟨⟨hold, hdeclared⟩, List.forall_mem_cons.2 ⟨hid, hshared⟩⟩

theorem Changes.inRange (h : Changes slot foreign b c) (hb : b.InRange) : c.InRange := by
  induction h with
  | refl => exact hb
  | tail _ hchange ih => exact hchange.inRange ih

/-! ## Types that stay what they are -/

theorem Change.type?_eq (h : Change slot foreign b c) {id : TypeId} (hid : b.graph.HasType id)
    (hslot : ¬slot id) : c.graph.type? id = b.graph.type? id := by
  cases h with
  | addType => exact (Array.getElem?_push_lt hid).trans (Array.getElem?_eq_getElem hid).symm
  | @define other node hother =>
    have hne : other.index.toNat ≠ id.index.toNat := fun heq => by
      have hsame : other = id := by
        cases other
        cases id
        simpa using UInt32.toNat_inj.1 heq
      exact hslot (hsame ▸ hother)
    exact Array.getElem?_setIfInBounds_ne hne
  | _ => rfl

/-- **A type stays what it is unless it is defined.** -/
theorem Changes.type?_eq (h : Changes slot foreign b c) {id : TypeId} (hid : b.graph.HasType id)
    (hslot : ¬slot id) : c.graph.type? id = b.graph.type? id := by
  induction h with
  | refl => rfl
  | tail hchanges hchange ih =>
    exact (hchange.type?_eq ((Changes.within hchanges).hasType hid) hslot).trans ih

/-! ## Declarations that are places apart -/

/-- The symbol is declared at the source position, by a declaration of the builder's own. -/
def IsPlaced (foreign : SymbolId → Prop) (graph : TypeGraph) (id : SymbolId) (position : UInt32) : Prop :=
  ¬foreign id ∧ ∃ s, graph.symbol? id = some s ∧ s.declaration.map Declaration.position = some position

/-- Declarations were made at the first `count` places, and no two at one. -/
structure Placed (foreign : SymbolId → Prop) (b : GraphBuilder) (count : Nat) : Prop where
  count_le : count ≤ b.graph.symbols.size
  next : b.nextPosition = UInt32.ofNat (100 * count)
  before : ∀ id position, IsPlaced foreign b.graph id position →
    ∃ place < count, position = UInt32.ofNat (100 * place)
  apart : ∀ id id' position, IsPlaced foreign b.graph id position →
    IsPlaced foreign b.graph id' position → id = id'

theorem IsPlaced.mono {foreign' : SymbolId → Prop} {graph : TypeGraph} {id : SymbolId} {position : UInt32}
    (h : IsPlaced foreign' graph id position) (hforeign : ∀ id, foreign id → foreign' id) :
    IsPlaced foreign graph id position :=
  ⟨fun hid => h.1 (hforeign id hid), h.2⟩

/-- Nothing new is declared. -/
theorem Placed.of_isPlaced {foreign' : SymbolId → Prop} {count : Nat} (h : Placed foreign b count)
    (hsize : b.graph.symbols.size ≤ c.graph.symbols.size) (hnext : c.nextPosition = b.nextPosition)
    (hplaced : ∀ id position, IsPlaced foreign' c.graph id position → IsPlaced foreign b.graph id position) :
    Placed foreign' c count where
  count_le := Nat.le_trans h.count_le hsize
  next := hnext.trans h.next
  before id position hid := h.before id position (hplaced id position hid)
  apart id id' position hid hid' :=
    h.apart id id' position (hplaced id position hid) (hplaced id' position hid')

theorem Placed.mono {foreign' : SymbolId → Prop} {count : Nat} (h : Placed foreign b count)
    (hforeign : ∀ id, foreign id → foreign' id) : Placed foreign' b count :=
  h.of_isPlaced (Nat.le_refl _) rfl fun _ _ hid => hid.mono hforeign

/-- A symbol of the larger graph is an old one or the one that was entered. -/
theorem symbol?_addSymbol {symbol s : Symbol} {id : SymbolId}
    (h : (b.addSymbol symbol).2.graph.symbol? id = some s) :
    b.graph.symbol? id = some s ∨ id = b.freshSymbol ∧ s = symbol := by
  simp only [TypeGraph.symbol?, GraphBuilder.addSymbol, Array.getElem?_push] at h
  split at h
  · next hlast =>
    refine .inr ⟨?_, (Option.some.inj h).symm⟩
    rw [freshSymbol, ← hlast, UInt32.ofNat_toNat]
  · exact .inl h

/-- Places come around after so many declarations. -/
theorem ofNat_place_injective {place place' : Nat} (h : place < 2 ^ 30) (h' : place' < 2 ^ 30)
    (heq : UInt32.ofNat (100 * place) = UInt32.ofNat (100 * place')) : place = place' := by
  have hmod := congrArg UInt32.toNat heq
  rw [UInt32.toNat_ofNat', UInt32.toNat_ofNat'] at hmod
  omega

/-- The next place is taken. -/
theorem Placed.declaredSymbol {count : Nat} (h : Placed foreign b count) (hroom : count < 2 ^ 30)
    (name : String) (kind : DeclarationKind) :
    Placed foreign (b.declaredSymbol name kind).2 (count + 1) := by
  have hplaced : ∀ id position, IsPlaced foreign (b.declaredSymbol name kind).2.graph id position →
      IsPlaced foreign b.graph id position ∨
        id = b.freshSymbol ∧ position = UInt32.ofNat (100 * count) := by
    rintro id position ⟨hforeign, s, hs, hposition⟩
    rcases symbol?_addSymbol hs with hold | ⟨rfl, rfl⟩
    · exact .inl ⟨hforeign, s, hold, hposition⟩
    · exact .inr ⟨rfl, by rw [← h.next]; exact (Option.some.inj hposition).symm⟩
  have hnew : ∀ id, ¬IsPlaced foreign b.graph id (UInt32.ofNat (100 * count)) := fun id hid => by
    obtain ⟨place, hlt, heq⟩ := h.before id _ hid
    have hsame := ofNat_place_injective hroom (by omega) heq
    omega
  have hcount := h.count_le
  refine ⟨?_, ?_, fun id position hid => ?_, fun id id' position hid hid' => ?_⟩
  · simp only [GraphBuilder.declaredSymbol, GraphBuilder.addSymbol, Array.size_push]
    omega
  · show b.nextPosition + 100 = _
    rw [h.next, Nat.mul_add, UInt32.ofNat_add]
    rfl
  · rcases hplaced id position hid with hold | ⟨_, rfl⟩
    · obtain ⟨place, hlt, heq⟩ := h.before id position hold
      exact ⟨place, by omega, heq⟩
    · exact ⟨count, by omega, rfl⟩
  · rcases hplaced id position hid with hold | ⟨rfl, rfl⟩ <;>
      rcases hplaced id' _ hid' with hold' | ⟨rfl, hposition⟩
    · exact h.apart id id' position hold hold'
    · exact absurd (hposition ▸ hold) (hnew id)
    · exact absurd hold' (hnew id')
    · rfl

theorem Change.placed {count : Nat} (h : Change slot foreign b c) (hb : Placed foreign b count)
    (hroom : c.graph.symbols.size ≤ 2 ^ 30) : ∃ count', Placed foreign c count' := by
  have hsize := h.within.symbols
  cases h with
  | @addSymbol symbol hplace =>
    refine ⟨count, hb.of_isPlaced hsize rfl ?_⟩
    rintro id position ⟨hforeign, s, hs, hposition⟩
    rcases symbol?_addSymbol hs with hold | ⟨rfl, rfl⟩
    · exact ⟨hforeign, s, hold, hposition⟩
    · rw [hplace.resolve_right hforeign] at hposition
      cases hposition
  | declaredSymbol name kind =>
    have hcount := hb.count_le
    simp only [GraphBuilder.declaredSymbol, GraphBuilder.addSymbol, Array.size_push] at hroom
    exact ⟨count + 1, hb.declaredSymbol (by omega) name kind⟩
  | @modifySymbol other change hplace =>
    refine ⟨count, hb.of_isPlaced hsize rfl ?_⟩
    rintro id position ⟨hforeign, s, hs, hposition⟩
    simp only [TypeGraph.symbol?, GraphBuilder.modifySymbol, Array.getElem?_modify] at hs
    split at hs
    · next heq =>
      obtain rfl : other = id := by
        cases other
        cases id
        simpa using UInt32.toNat_inj.1 heq
      obtain ⟨before, hbefore, rfl⟩ := Option.map_eq_some_iff.1 hs
      exact ⟨hforeign, before, hbefore, ((hplace.resolve_right hforeign) before).symm.trans hposition⟩
    · exact ⟨hforeign, s, hs, hposition⟩
  | _ => exact ⟨count, hb.of_isPlaced hsize rfl fun _ _ hid => hid⟩

/-- **No two declarations are made at one place.** -/
theorem Changes.placed {count : Nat} (h : Changes slot foreign b c) (hb : Placed foreign b count)
    (hroom : c.graph.symbols.size ≤ 2 ^ 30) : ∃ count', Placed foreign c count' := by
  induction h with
  | refl => exact ⟨count, hb⟩
  | tail _ hchange ih =>
    obtain ⟨before, hbefore⟩ := ih (Nat.le_trans hchange.within.symbols hroom)
    exact hchange.placed hbefore hroom

end GraphBuilder

end TypeSchema
