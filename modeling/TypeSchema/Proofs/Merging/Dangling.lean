import Mathlib.Algebra.Group.Nat.Defs
import TypeSchema.Graph.Merge
import TypeSchema.Proofs.Graph.Ranges

/-!
# Dangling positions in merged graphs

Merging moves every position that the second graph holds, and `validate` looks at every position
there is.  The two go through the fields of a type separately, so it has to be said that they go
through the same ones: what a moved type refers to is what the type refers to, moved
(`Shift.typeRefs_node`, `Shift.symbolRefs_node`).

A position is moved by an addition in 32 bits.  As long as it does not go past the end, the moved
position is in range exactly if the position was (`TypeGraph.hasType_moved_iff`).  A position that does
go past the end starts again at the front, and there it always meets a type of the first graph.  So
merging creates no dangling position, but it may hide one: **`TypeGraph.validate_merge_iff`** says
which.
-/

set_option autoImplicit false

namespace TypeSchema

/-! ## What a moved type refers to -/

namespace Shift

variable (shift : Shift)

@[simp] theorem typeRefs_kind (kind : TypeKind) :
    (shift.kind kind).typeRefs = kind.typeRefs.map shift.type := by
  cases kind <;>
    simp [Shift.kind, TypeKind.typeRefs, Function.comp_def, Shift.property, Option.toList_map]

@[simp] theorem symbolRefs_kind (kind : TypeKind) :
    (shift.kind kind).symbolRefs = kind.symbolRefs.map shift.symbol := by
  cases kind <;>
    simp [Shift.kind, TypeKind.symbolRefs, List.flatMap_map, List.map_flatMap, Shift.property,
      Option.toList_map]

theorem typeRefs_node (node : TypeNode) :
    (shift.node node).typeRefs = node.typeRefs.map shift.type := by
  simp [Shift.node, TypeNode.typeRefs, Option.toList_map]

theorem symbolRefs_node (node : TypeNode) :
    (shift.node node).symbolRefs = node.symbolRefs.map shift.symbol := by
  simp [Shift.node, TypeNode.symbolRefs, Option.toList_map]

end Shift

namespace TypeGraph

variable {a b graph : TypeGraph}

/-! ## Everything that a graph refers to -/

/-- Every type that the graph refers to, by a type or by a declaration. -/
def typeRefs (graph : TypeGraph) : List TypeId :=
  graph.types.toList.flatMap TypeNode.typeRefs ++ graph.declarations.map Prod.snd

/-- Every symbol that the graph refers to. -/
def symbolRefs (graph : TypeGraph) : List SymbolId :=
  graph.types.toList.flatMap TypeNode.symbolRefs

theorem inRange_iff : graph.InRange ↔
    (∀ id ∈ graph.typeRefs, graph.HasType id) ∧ ∀ id ∈ graph.symbolRefs, graph.HasSymbol id := by
  simp only [typeRefs, symbolRefs, List.mem_append, List.mem_flatMap, List.mem_map]
  constructor
  · refine fun h => ⟨?_, ?_⟩
    · rintro id (⟨node, hnode, hid⟩ | ⟨entry, hentry, rfl⟩)
      · exact (nodeInRange_iff.1 (h.types node hnode)).1 id hid
      · exact h.declarations entry hentry
    · rintro id ⟨node, hnode, hid⟩
      exact (nodeInRange_iff.1 (h.types node hnode)).2 id hid
  · rintro ⟨htypes, hsymbols⟩
    refine ⟨fun node hnode => nodeInRange_iff.2 ⟨fun id hid => ?_, fun id hid => ?_⟩,
      fun entry hentry => htypes _ (.inr ⟨entry, hentry, rfl⟩)⟩
    · exact htypes id (.inl ⟨node, hnode, hid⟩)
    · exact hsymbols id ⟨node, hnode, hid⟩

/-- The declarations of the second graph are written into those of the first one, moved. -/
theorem declarations_merge (a b : TypeGraph) : (a.merge b).declarations =
    Dict.extend a.declarations (b.declarations.map fun entry => (entry.1, a.shift.type entry.2)) :=
  rfl

/-- Nothing is referred to by the declarations of the merged graph but what those of the first graph
refer to, and what those of the second one do, moved; and of the latter nothing is lost, as no name is
declared twice. -/
theorem mem_declarations_merge (hnames : (Dict.keys b.declarations).Nodup) (id : TypeId) :
    (id ∈ (a.merge b).declarations.map Prod.snd →
      id ∈ a.declarations.map Prod.snd ∨ id ∈ (b.declarations.map Prod.snd).map a.shift.type) ∧
    (id ∈ (b.declarations.map Prod.snd).map a.shift.type →
      id ∈ (a.merge b).declarations.map Prod.snd) := by
  have hmoved : (b.declarations.map fun entry => (entry.1, a.shift.type entry.2)).map Prod.snd =
      (b.declarations.map Prod.snd).map a.shift.type := by
    simp [Function.comp_def]
  rw [declarations_merge, ← hmoved]
  simp only [List.mem_map (f := Prod.snd)]
  constructor
  · rintro ⟨entry, hentry, rfl⟩
    exact (Dict.mem_of_mem_extend hentry).imp (fun h => ⟨entry, h, rfl⟩) fun h => ⟨entry, h, rfl⟩
  · rintro ⟨⟨name, id⟩, hentry, rfl⟩
    rw [← Dict.keys_map] at hnames
    have hget := Dict.get?_extend_of_nodup (d := a.declarations) hnames (Dict.get?_of_mem hnames hentry)
    exact ⟨_, Dict.mem_of_get? hget, rfl⟩

/-! ## Moved positions -/

/-- Moving the position behind the types of the graph goes past the last one there can be. -/
def TypeGoesRound (graph : TypeGraph) (id : TypeId) : Prop :=
  2 ^ 32 ≤ graph.types.size + id.index.toNat

instance (id : TypeId) : Decidable (graph.TypeGoesRound id) :=
  inferInstanceAs (Decidable (_ ≤ _))

/-- Moving the position behind the symbols of the graph goes past the last one there can be. -/
def SymbolGoesRound (graph : TypeGraph) (id : SymbolId) : Prop :=
  2 ^ 32 ≤ graph.symbols.size + id.index.toNat

instance (id : SymbolId) : Decidable (graph.SymbolGoesRound id) :=
  inferInstanceAs (Decidable (_ ≤ _))

/-- The addition that moves a position, with and without going past the end. -/
theorem toNat_add_ofNat_lt_iff {size others : Nat} (index : UInt32) (hroom : others + size < 2 ^ 32) :
    (index + UInt32.ofNat others).toNat < others + size ↔
      index.toNat < size ∨ 2 ^ 32 ≤ others + index.toNat := by
  have hindex : index.toNat < 2 ^ 32 := index.toNat_lt
  rw [UInt32.toNat_add, UInt32.toNat_ofNat']
  omega

/-- A moved position is in range if it was, and also if it went past the end. -/
theorem hasType_moved_iff (htypes : a.types.size + b.types.size < 2 ^ 32) {id : TypeId} :
    (a.merge b).HasType (a.shift.type id) ↔ b.HasType id ∨ a.TypeGoesRound id := by
  have hsize : (a.merge b).types.size = a.types.size + b.types.size := by simp [merge]
  rw [HasType, hsize]
  exact toNat_add_ofNat_lt_iff id.index htypes

theorem hasSymbol_moved_iff (hsymbols : a.symbols.size + b.symbols.size < 2 ^ 32) {id : SymbolId} :
    (a.merge b).HasSymbol (a.shift.symbol id) ↔ b.HasSymbol id ∨ a.SymbolGoesRound id := by
  have hsize : (a.merge b).symbols.size = a.symbols.size + b.symbols.size := by simp [merge]
  rw [HasSymbol, hsize]
  exact toNat_add_ofNat_lt_iff id.index hsymbols

theorem HasType.merge {id : TypeId} (h : a.HasType id) : (a.merge b).HasType id :=
  Nat.lt_of_lt_of_le h (by simp [TypeGraph.merge])

theorem HasSymbol.merge {id : SymbolId} (h : a.HasSymbol id) : (a.merge b).HasSymbol id :=
  Nat.lt_of_lt_of_le h (by simp [TypeGraph.merge])

/-! ## Merged graphs -/

theorem mem_typeRefs_merge (hnames : (Dict.keys b.declarations).Nodup) {id : TypeId} :
    (id ∈ (a.merge b).typeRefs → id ∈ a.typeRefs ∨ id ∈ b.typeRefs.map a.shift.type) ∧
    (id ∈ b.typeRefs.map a.shift.type → id ∈ (a.merge b).typeRefs) := by
  obtain ⟨honly, hall⟩ := mem_declarations_merge (a := a) hnames id
  have hnodes : (a.merge b).types.toList.flatMap TypeNode.typeRefs =
      a.types.toList.flatMap TypeNode.typeRefs ++
        (b.types.toList.flatMap TypeNode.typeRefs).map a.shift.type := by
    simp [merge, List.flatMap_map, List.map_flatMap, Shift.typeRefs_node]
  simp only [typeRefs, hnodes, List.map_append, List.mem_append]
  tauto

theorem symbolRefs_merge (a b : TypeGraph) :
    (a.merge b).symbolRefs = a.symbolRefs ++ b.symbolRefs.map a.shift.symbol := by
  simp [symbolRefs, merge, List.flatMap_map, List.map_flatMap, Shift.symbolRefs_node]

/-- The merged graph is in range if each position of the second graph is, or goes past the end. -/
theorem inRange_merge_iff (ha : a.InRange) (hnames : (Dict.keys b.declarations).Nodup)
    (htypes : a.types.size + b.types.size < 2 ^ 32)
    (hsymbols : a.symbols.size + b.symbols.size < 2 ^ 32) :
    (a.merge b).InRange ↔
      (∀ id ∈ b.typeRefs, b.HasType id ∨ a.TypeGoesRound id) ∧
        ∀ id ∈ b.symbolRefs, b.HasSymbol id ∨ a.SymbolGoesRound id := by
  obtain ⟨hfirstTypes, hfirstSymbols⟩ := inRange_iff.1 ha
  simp only [← hasType_moved_iff htypes, ← hasSymbol_moved_iff hsymbols]
  rw [inRange_iff, symbolRefs_merge]
  refine and_congr ⟨fun h id hid => ?_, fun h id hid => ?_⟩ ⟨fun h id hid => ?_, fun h id hid => ?_⟩
  · exact h _ ((mem_typeRefs_merge hnames).2 (List.mem_map_of_mem hid))
  · rcases (mem_typeRefs_merge hnames).1 hid with hfirst | hsecond
    · exact (hfirstTypes id hfirst).merge
    · obtain ⟨old, hold, rfl⟩ := List.mem_map.1 hsecond
      exact h old hold
  · exact h _ (List.mem_append_right _ (List.mem_map_of_mem hid))
  · rcases List.mem_append.1 hid with hfirst | hsecond
    · exact (hfirstSymbols id hfirst).merge
    · obtain ⟨old, hold, rfl⟩ := List.mem_map.1 hsecond
      exact h old hold

/-- A merged graph without dangling positions comes of two of them. -/
theorem InRange.merge (ha : a.InRange) (hb : b.InRange) (hnames : (Dict.keys b.declarations).Nodup)
    (htypes : a.types.size + b.types.size < 2 ^ 32)
    (hsymbols : a.symbols.size + b.symbols.size < 2 ^ 32) : (a.merge b).InRange := by
  obtain ⟨hsecondTypes, hsecondSymbols⟩ := inRange_iff.1 hb
  exact (inRange_merge_iff ha hnames htypes hsymbols).2
    ⟨fun id hid => .inl (hsecondTypes id hid), fun id hid => .inl (hsecondSymbols id hid)⟩

end TypeGraph

end TypeSchema
