import TypeSchema.Graph.Merge
import TypeSchema.Proofs.Names.Registry
import TypeSchema.Schema.Resolution

/-!
# Moving positions

Merging moves the positions in a graph, and what is built from it holds positions too: the registry
and the context of a call, the subjects it builds and the owners it builds them for.  They are moved
by `Shift.registry`, `Shift.context` and so on.

A shift keeps different positions apart.  So what is done to a registry or a context, and what is read
off it, goes along with the shift: `nameOf_registry`, `context_markAbsent`, `context_leave`.  And
nothing that is asked about a type by its structure alone depends on where it stands: the lemmas on
`Shift.kind` and `Shift.node`.
-/

set_option autoImplicit false

namespace TypeSchema

/-! ## Positions -/

namespace Shift

variable (shift : Shift)

theorem type_injective : Function.Injective shift.type := by
  rintro ⟨a⟩ ⟨b⟩ h
  simpa [type] using h

theorem symbol_injective : Function.Injective shift.symbol := by
  rintro ⟨a⟩ ⟨b⟩ h
  simpa [symbol] using h

/-- Positions that stay where they are. -/
def zero : Shift :=
  ⟨0, 0⟩

@[simp] theorem type_zero : zero.type = id := by
  funext ⟨index⟩
  simp [type, zero]

@[simp] theorem symbol_zero : zero.symbol = id := by
  funext ⟨index⟩
  simp [symbol, zero]

@[simp] theorem property_zero : zero.property = id := by
  funext p
  simp [property]

@[simp] theorem kind_zero (kind : TypeKind) : zero.kind kind = kind := by
  cases kind <;> simp [Shift.kind]

@[simp] theorem node_zero (node : TypeNode) : zero.node node = node := by
  simp [Shift.node]

/-! ## Types -/

@[simp] theorem kind_node (node : TypeNode) : (shift.node node).kind = shift.kind node.kind := rfl

@[simp] theorem symbol_node (node : TypeNode) :
    (shift.node node).symbol = node.symbol.map shift.symbol := rfl

@[simp] theorem aliasSymbol_node (node : TypeNode) :
    (shift.node node).aliasSymbol = node.aliasSymbol.map shift.symbol := rfl

@[simp] theorem aliasArguments_node (node : TypeNode) :
    (shift.node node).aliasArguments = node.aliasArguments.map shift.type := rfl

@[simp] theorem numberIndex_node (node : TypeNode) :
    (shift.node node).numberIndex = node.numberIndex.map shift.type := rfl

@[simp] theorem literal?_kind (kind : TypeKind) : (shift.kind kind).literal? = kind.literal? := by
  cases kind <;> rfl

@[simp] theorem isComposite_node (node : TypeNode) :
    TypeGraph.isComposite (shift.node node) = TypeGraph.isComposite node := by
  obtain ⟨kind⟩ := node
  cases kind <;> simp [TypeGraph.isComposite, Shift.node, Shift.kind]

@[simp] theorem isAnonymousObject_node (node : TypeNode) :
    (shift.node node).isAnonymousObject = node.isAnonymousObject := by
  obtain ⟨kind⟩ := node
  cases kind <;> rfl

@[simp] theorem isEnum_node (node : TypeNode) : (shift.node node).isEnum = node.isEnum := by
  obtain ⟨kind⟩ := node
  cases kind <;> rfl

@[simp] theorem namingSymbol_node (node : TypeNode) :
    (shift.node node).namingSymbol = node.namingSymbol.map shift.symbol := by
  cases h : node.aliasSymbol <;> simp [TypeNode.namingSymbol, h]

@[simp] theorem properties_node (node : TypeNode) :
    (shift.node node).properties = node.properties.map shift.property := by
  obtain ⟨kind⟩ := node
  cases kind <;> rfl

/-! ## Registries -/

/-- The registry with the positions of the types moved. -/
def registry (names : NameRegistry) : NameRegistry where
  current := names.current.map fun entry => (shift.type entry.1, entry.2)
  holders := names.holders.map fun entry => (entry.1, shift.type entry.2)

variable (names : NameRegistry) (id : TypeId)

theorem name?_registry : (shift.registry names).name? (shift.type id) = names.name? id := by
  have hsame : ((fun entry : TypeId × String => entry.1 == shift.type id) ∘ fun entry =>
      (shift.type entry.1, entry.2)) = fun entry : TypeId × String => entry.1 == id := by
    funext entry
    simp [shift.type_injective.eq_iff]
  rw [NameRegistry.name?, NameRegistry.name?, registry, List.find?_map, hsame]
  simp [Function.comp_def]

theorem isOpen_registry (name : String) :
    (shift.registry names).isOpen (shift.type id) name = names.isOpen id name := by
  rw [NameRegistry.isOpen, NameRegistry.isOpen, registry, Dict.get?_map]
  cases Dict.get? names.holders name with
  | none => rfl
  | some holder => simp [shift.type_injective.eq_iff]

theorem openNumber_registry (base : String) :
    (shift.registry names).openNumber (shift.type id) base = names.openNumber id base := by
  simp only [NameRegistry.openNumber, isOpen_registry]
  simp [registry]

theorem assign_registry (name : String) :
    (shift.registry names).assign (shift.type id) name = shift.registry (names.assign id name) := by
  have hfilter : (fun entry : TypeId × String => entry.1 != shift.type id) ∘
      (fun entry : TypeId × String => (shift.type entry.1, entry.2)) = fun entry => entry.1 != id := by
    funext entry
    simp [bne, shift.type_injective.eq_iff]
  simp only [NameRegistry.assign, registry, List.map_cons, List.filter_map, hfilter,
    Dict.insert_map]

theorem makeUnique_registry (base : String) :
    (shift.registry names).makeUnique (shift.type id) base =
      ((names.makeUnique id base).1, shift.registry (names.makeUnique id base).2) := by
  simp only [NameRegistry.makeUnique, openNumber_registry, assign_registry]

theorem nameOf_registry (base : String) :
    (shift.registry names).nameOf (shift.type id) base =
      ((names.nameOf id base).1, shift.registry (names.nameOf id base).2) := by
  rw [NameRegistry.nameOf, NameRegistry.nameOf, name?_registry]
  cases names.name? id with
  | some name => rfl
  | none => exact shift.makeUnique_registry names id base

/-! ## Contexts -/

/-- The context with the positions of types and symbols moved. -/
def context (c : Context) : Context :=
  { c with names := shift.registry c.names, absent := c.absent.map shift.symbol }

variable (c : Context)

@[simp] theorem context_zero : zero.context c = c := by
  simp [context, registry]

@[simp] theorem isReffed_context (name : String) :
    (shift.context c).isReffed name = c.isReffed name := rfl

@[simp] theorem isBuilding_context (name : String) :
    (shift.context c).isBuilding name = c.isBuilding name := rfl

theorem contains_absent_context (symbol : SymbolId) :
    (shift.context c).absent.contains (shift.symbol symbol) = c.absent.contains symbol := by
  rw [Bool.eq_iff_iff, List.contains_iff_mem, List.contains_iff_mem, context,
    List.mem_map_of_injective shift.symbol_injective]

theorem context_markAbsent (symbol : SymbolId) :
    (shift.context c).markAbsent (shift.symbol symbol) = shift.context (c.markAbsent symbol) := by
  rw [Context.markAbsent, Context.markAbsent, contains_absent_context]
  split <;> rfl

theorem context_leave (name : String) (token : Nat) :
    (shift.context c).leave name token =
      ((c.leave name token).1, shift.context (c.leave name token).2) := by
  rw [Context.leave, Context.leave]
  split
  · rename_i h
    rw [if_pos (show Dict.get? c.guard name = some token from h)]
    rfl
  · rename_i h
    rw [if_neg (show ¬Dict.get? c.guard name = some token from h)]

/-! ## Subjects and owners -/

/-- The subject at its new place. -/
def subject (subject : Subject) : Subject where
  id := shift.type subject.id
  node := shift.node subject.node
  named := subject.named.map shift.symbol

theorem describing_subject (subject : Subject) :
    (shift.subject subject).describing = subject.describing.map shift.symbol := by
  simp [Subject.describing, Shift.subject, Option.toList_map]

@[simp] theorem isEnumReference_subject (subject : Subject) :
    (shift.subject subject).isEnumReference = subject.isEnumReference := by
  simp [Subject.isEnumReference, Shift.subject]

@[simp] theorem isGuarded_subject (subject : Subject) (isRaw : Bool) :
    (shift.subject subject).isGuarded isRaw = subject.isGuarded isRaw := by
  simp [Subject.isGuarded, Shift.subject]

/-- The owner at its new place. -/
def owner (owner : Owner) : Owner :=
  { owner with symbol := shift.symbol owner.symbol }

@[simp] theorem owner_zero (owner : Owner) : zero.owner owner = owner := by
  simp [Shift.owner]

/-- A property that was kept, at its new place. -/
def kept (kept : KeptProperty) : KeptProperty :=
  { kept with property := shift.property kept.property }

end Shift

end TypeSchema
