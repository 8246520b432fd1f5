import TypeSchema.Proofs.Merging.Dangling
import TypeSchema.Proofs.Merging.Invariance

/-!
# Laws of merging

Merging is associative, and the empty graph is neutral (`TypeGraph.merge_assoc`,
`TypeGraph.merge_empty`, `TypeGraph.empty_merge`).  Moving twice is moving by the sum (`Shift.andThen`),
and declarations are written in their order, whatever is added to what first (`Dict.extend_extend`).

Both graphs are found again in the merged one (`TypeGraph.placed_merge_left`,
`TypeGraph.placed_merge_right`), so their types are printed in the same way.  **`TypeGraph.merge_laws`**
puts the two together, for graphs that hold no dangling position and declare no name twice; merging
leaves such a graph (`TypeGraph.Sound.merge`).
-/

set_option autoImplicit false

namespace TypeSchema

/-! ## Moving twice -/

namespace Shift

/-- Moving by the first shift and then by the next one. -/
def andThen (first next : Shift) : Shift where
  types := first.types + next.types
  symbols := first.symbols + next.symbols

variable (first next : Shift)

@[simp] theorem type_andThen : (first.andThen next).type = next.type ∘ first.type := by
  funext id
  simp [type, andThen, UInt32.add_assoc]

@[simp] theorem symbol_andThen : (first.andThen next).symbol = next.symbol ∘ first.symbol := by
  funext id
  simp [symbol, andThen, UInt32.add_assoc]

@[simp] theorem property_andThen : (first.andThen next).property = next.property ∘ first.property := by
  funext p
  simp [property]

@[simp] theorem kind_andThen : (first.andThen next).kind = next.kind ∘ first.kind := by
  funext kind
  cases kind <;> simp [Shift.kind]

@[simp] theorem node_andThen : (first.andThen next).node = next.node ∘ first.node := by
  funext node
  simp [Shift.node]

end Shift

namespace TypeGraph

variable {a b c graph : TypeGraph}

/-! ## Associativity -/

theorem shift_merge (a b : TypeGraph) : (a.merge b).shift = b.shift.andThen a.shift := by
  simp [shift, merge, Shift.andThen, UInt32.ofNat_add, UInt32.add_comm]

theorem shift_empty : ({} : TypeGraph).shift = .zero :=
  rfl

/-- **Graphs can be merged in any grouping**, and the result is the same in all its parts: the types,
the symbols, the declarations with their order and what was reported. -/
theorem merge_assoc (hnames : (Dict.keys b.declarations).Nodup) :
    (a.merge b).merge c = a.merge (b.merge c) := by
  have htypes : a.types ++ b.types.map a.shift.node ++ c.types.map (a.merge b).shift.node =
      a.types ++ (b.types ++ c.types.map b.shift.node).map a.shift.node := by
    rw [shift_merge, Shift.node_andThen, Array.append_assoc, Array.map_append, Array.map_map]
  have hmoved : (c.declarations.map fun entry => (entry.1, (a.merge b).shift.type entry.2)) =
      (c.declarations.map fun entry => (entry.1, b.shift.type entry.2)).map
        fun entry => (entry.1, a.shift.type entry.2) := by
    simp [shift_merge, Function.comp_def]
  have hdeclarations : ((a.merge b).merge c).declarations = (a.merge (b.merge c)).declarations := by
    rw [← Dict.keys_map a.shift.type] at hnames
    rw [declarations_merge, declarations_merge, declarations_merge, declarations_merge,
      Dict.extend_extend hnames, hmoved, Dict.extend_map]
  show TypeGraph.mk _ _ _ _ = TypeGraph.mk _ _ _ _
  rw [TypeGraph.mk.injEq]
  exact ⟨htypes, Array.append_assoc, hdeclarations, List.append_assoc _ _ _⟩

/-- Nothing is added by the empty graph. -/
theorem merge_empty (a : TypeGraph) : a.merge {} = a := by
  simp [merge, Dict.extend]

/-- Nothing is moved behind the empty graph. -/
theorem empty_merge (hnames : (Dict.keys a.declarations).Nodup) : ({} : TypeGraph).merge a = a := by
  have hnode : Shift.zero.node = id := funext Shift.node_zero
  have hdeclarations : Dict.extend [] a.declarations = a.declarations :=
    Dict.ofEntries_of_nodup hnames
  simp [merge, shift_empty, hnode, hdeclarations]

/-! ## Types in the merged graph -/

/-- The graph holds no dangling position and declares no name twice. -/
structure Sound (graph : TypeGraph) : Prop where
  inRange : graph.InRange
  names : (Dict.keys graph.declarations).Nodup

theorem sound_iff : graph.Sound ↔
    graph.validate = .ok () ∧ (Dict.keys graph.declarations).Nodup := by
  rw [validate_eq_ok_iff]
  exact ⟨fun h => ⟨h.inRange, h.names⟩, fun h => ⟨h.1, h.2⟩⟩

/-- Merging leaves a sound graph. -/
theorem Sound.merge (ha : a.Sound) (hb : b.Sound) (htypes : a.types.size + b.types.size < 2 ^ 32)
    (hsymbols : a.symbols.size + b.symbols.size < 2 ^ 32) : (a.merge b).Sound where
  inRange := ha.inRange.merge hb.inRange hb.names htypes hsymbols
  names := Dict.nodup_keys_extend ha.names

/-- Every type is printed, and printed in the same way at its new place. -/
theorem Placed.exists_typeText {shift : Shift} {larger : TypeGraph}
    (h : graph.Placed shift larger) (hrange : graph.InRange) {id : TypeId} (hid : graph.HasType id) :
    ∃ text, graph.typeText id = .ok text ∧ larger.typeText (shift.type id) = .ok text := by
  obtain ⟨text, htext⟩ := hrange.found_typeText hid
  obtain ⟨moved, hmoved, hsame⟩ := h.refound_typeText id text htext
  exact ⟨text, htext, hsame ▸ hmoved⟩

/-- **Merging is a monoid, and both graphs are embedded in the merged one.**  Grouping does not matter
and the empty graph is neutral.  Every type and symbol of the first graph stays as and where it is, and
those of the second one follow, the types with all their positions moved.  Every type of either graph
has a text, and the same text in the merged graph. -/
theorem merge_laws (ha : a.Sound) (hb : b.Sound) (hc : c.Sound)
    (htypes : a.types.size + b.types.size + c.types.size < 2 ^ 32)
    (hsymbols : a.symbols.size + b.symbols.size + c.symbols.size < 2 ^ 32) :
    (a.merge b).merge c = a.merge (b.merge c) ∧ ((a.merge b).merge c).Sound ∧
    a.merge {} = a ∧ ({} : TypeGraph).merge a = a ∧
    (∀ index < a.types.size, (a.merge b).types[index]? = a.types[index]?) ∧
    (∀ index < a.symbols.size, (a.merge b).symbols[index]? = a.symbols[index]?) ∧
    (∀ id, a.HasType id → ∃ text, a.typeText id = .ok text ∧ (a.merge b).typeText id = .ok text) ∧
    (∀ id, b.HasType id → (a.shift.type id).index.toNat = a.types.size + id.index.toNat ∧
      (a.merge b).type? (a.shift.type id) = (b.type? id).map a.shift.node ∧
      ∃ text, b.typeText id = .ok text ∧ (a.merge b).typeText (a.shift.type id) = .ok text) ∧
    ∀ id, b.HasSymbol id → (a.shift.symbol id).index.toNat = a.symbols.size + id.index.toNat ∧
      (a.merge b).symbol? (a.shift.symbol id) = b.symbol? id := by
  have hroom : a.types.size + b.types.size < 2 ^ 32 := by omega
  have hspace : a.symbols.size + b.symbols.size < 2 ^ 32 := by omega
  have hleft := placed_merge_left a b
  have hright := placed_merge_right hroom hspace
  have hab := ha.merge hb hroom hspace
  have habc := hab.merge hc (by simpa [merge] using htypes) (by simpa [merge] using hsymbols)
  refine ⟨merge_assoc hb.names, habc, merge_empty a, empty_merge ha.names, fun index hindex => ?_,
    fun index hindex => ?_, fun id hid => ?_, fun id hid => ⟨?_, ?_, ?_⟩, fun id hid => ⟨?_, ?_⟩⟩
  · exact Array.getElem?_append_left hindex
  · exact Array.getElem?_append_left hindex
  · simpa using hleft.exists_typeText ha.inRange hid
  · exact toNat_add_ofNat hid hroom
  · obtain ⟨node, hnode⟩ := found_type hid
    have hmoved := lookupType_eq_ok_iff.1 (hright.type hnode)
    rw [type?, type?, hmoved, lookupType_eq_ok_iff.1 hnode, Option.map_some]
  · exact hright.exists_typeText hb.inRange hid
  · exact toNat_add_ofNat hid hspace
  · obtain ⟨symbol, hsymbol⟩ := found_symbol hid
    have hmoved := lookupSymbol_eq_ok_iff.1 (hright.symbol hsymbol)
    rw [symbol?, symbol?, hmoved, lookupSymbol_eq_ok_iff.1 hsymbol]

/-- A table whose cells are strings, under a name that is also declared by `keyed`. -/
def cells : TypeGraph where
  types := #[{ kind := .string }, { kind := .union [⟨0⟩], aliasSymbol := some ⟨0⟩ }]
  symbols := #[{ name := "Cell" }]
  declarations := [("Cell", ⟨1⟩), ("Text", ⟨0⟩)]

/-- An object with a key, declared together with its cells. -/
def keyed : TypeGraph where
  types := #[{ kind := .number },
    { kind := .object [{ symbol := ⟨1⟩, type := ⟨0⟩ }] true (some ⟨1⟩) }]
  symbols := #[{ name := "Row" }, { name := "key" }]
  declarations := [("Row", ⟨1⟩), ("Cell", ⟨0⟩)]

/-- A flag, under a name that is declared by both. -/
def flagged : TypeGraph where
  types := #[{ kind := .boolean }]
  declarations := [("Cell", ⟨0⟩)]

/-- Three graphs with names in common. -/
theorem merge_laws_cells :
    (cells.merge keyed).merge flagged = cells.merge (keyed.merge flagged) ∧
    ((cells.merge keyed).merge flagged).declarations =
      [("Cell", ⟨4⟩), ("Text", ⟨0⟩), ("Row", ⟨3⟩)] ∧
    ∃ text, keyed.typeText ⟨1⟩ = .ok text ∧ (cells.merge keyed).typeText ⟨3⟩ = .ok text := by
  have hlaws := merge_laws (a := cells) (b := keyed) (c := flagged)
    (sound_iff.2 (by decide +kernel)) (sound_iff.2 (by decide +kernel))
    (sound_iff.2 (by decide +kernel)) (by decide) (by decide)
  obtain ⟨hassoc, _, _, _, _, _, _, hsecond, _⟩ := hlaws
  have hrow : keyed.HasType ⟨1⟩ := show 1 < 2 by decide
  exact ⟨hassoc, by decide +kernel, (hsecond ⟨1⟩ hrow).2.2⟩

end TypeGraph

end TypeSchema
