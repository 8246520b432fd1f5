import TypeSchema.Proofs.Building.Wrappers
import TypeSchema.Proofs.Dict
import TypeSchema.Proofs.Results

/-!
# Graphs without dangling positions

A graph that is read from a file may hold any numbers, and everything built from it looks types and
symbols up by them.  `TypeGraph.InRange` lists the places where a graph holds positions, field by
field, and says that each of them is one of the graph's own.  **`TypeGraph.validate_eq_ok_iff`**
says that this is what `validate` accepts: no field was forgotten, and none is asked for too much.

Where every position is in range nothing is ever missing: types and symbols are found, every type is
printed, and every question about a type has an answer.  `Found` says so of a single lookup, and the
lemmas about it follow the lookups the way they are made, one after the other.
-/

set_option autoImplicit false

namespace TypeSchema

/-! ## Lookups -/

/-- The lookup finds something. -/
def Found {α : Type} (lookup : Except Missing α) : Prop :=
  ∃ a, lookup = .ok a

namespace Found

variable {α β : Type} {lookup : Except Missing α}

theorem pure (a : α) : Found (Pure.pure a) :=
  ⟨a, rfl⟩

/-- Lookups one after the other find something if each of them does. -/
theorem bind {f : α → Except Missing β} (h : Found lookup)
    (hf : ∀ a, lookup = .ok a → Found (f a)) : Found (lookup >>= f) := by
  obtain ⟨a, rfl⟩ := h
  exact hf a rfl

theorem map {f : α → β} (h : Found lookup) : Found (do return f (← lookup)) :=
  h.bind fun a _ => .pure (f a)

theorem mapM {f : α → Except Missing β} {l : List α} (h : ∀ a ∈ l, Found (f a)) :
    Found (l.mapM f) := by
  induction l with
  | nil =>
    rw [List.mapM_nil]
    exact .pure []
  | cons a rest ih =>
    obtain ⟨hfirst, hrest⟩ := List.forall_mem_cons.1 h
    rw [List.mapM_cons]
    exact hfirst.bind fun b _ => (ih hrest).map

end Found

/-! ## Positions in range -/

namespace TypeGraph

variable {graph : TypeGraph} {id : TypeId} {node : TypeNode}

/-- There is a type at the position. -/
def HasType (graph : TypeGraph) (id : TypeId) : Prop :=
  id.index.toNat < graph.types.size

/-- There is a symbol at the position. -/
def HasSymbol (graph : TypeGraph) (id : SymbolId) : Prop :=
  id.index.toNat < graph.symbols.size

/-- Every position that a property holds is in range. -/
structure PropertyInRange (graph : TypeGraph) (property : Property) : Prop where
  symbol : graph.HasSymbol property.symbol
  type : graph.HasType property.type
  referenced : ∀ id, property.referenced = some id → graph.HasSymbol id

/-- Every position that a structure holds is in range. -/
def KindInRange (graph : TypeGraph) : TypeKind → Prop
  | .union members => ∀ id ∈ members, graph.HasType id
  | .intersection members => ∀ id ∈ members, graph.HasType id
  | .tuple elements _ _ => ∀ id ∈ elements, graph.HasType id
  | .object properties _ index =>
    (∀ property ∈ properties, graph.PropertyInRange property) ∧
      ∀ id, index = some id → graph.HasType id
  | .string | .number | .boolean | .null | .undefined | .void | .any | .unknown | .never
  | .nonPrimitive | .typeParameter => True
  | .stringLiteral _ | .numberLiteral _ | .booleanLiteral _ | .enumLiteral _ | .enum _ => True

/-- Every position that a type holds is in range. -/
structure NodeInRange (graph : TypeGraph) (node : TypeNode) : Prop where
  symbol : ∀ id, node.symbol = some id → graph.HasSymbol id
  aliasSymbol : ∀ id, node.aliasSymbol = some id → graph.HasSymbol id
  aliasArguments : ∀ id ∈ node.aliasArguments, graph.HasType id
  numberIndex : ∀ id, node.numberIndex = some id → graph.HasType id
  baseTypes : ∀ id ∈ node.baseTypes, graph.HasType id
  kind : graph.KindInRange node.kind

/-- Every position that the graph holds is in range. -/
structure InRange (graph : TypeGraph) : Prop where
  types : ∀ node ∈ graph.types.toList, graph.NodeInRange node
  declarations : ∀ entry ∈ graph.declarations, graph.HasType entry.2

/-! ## What is accepted -/

theorem type?_isNone : (graph.type? id).isNone = true ↔ ¬graph.HasType id := by
  simp [type?, HasType]

theorem symbol?_isNone {id : SymbolId} :
    (graph.symbol? id).isNone = true ↔ ¬graph.HasSymbol id := by
  simp [symbol?, HasSymbol]

/-- The positions that are checked in a structure are those it holds. -/
theorem kindInRange_iff {kind : TypeKind} : graph.KindInRange kind ↔
    (∀ id ∈ kind.typeRefs, graph.HasType id) ∧ ∀ id ∈ kind.symbolRefs, graph.HasSymbol id := by
  cases kind with
  | object properties anonymous index =>
    simp only [KindInRange, TypeKind.typeRefs, TypeKind.symbolRefs, List.mem_append, List.mem_map,
      List.mem_flatMap, List.mem_cons, Option.mem_toList]
    constructor
    · rintro ⟨hproperties, hindex⟩
      refine ⟨?_, ?_⟩
      · rintro id (⟨property, hmem, rfl⟩ | hvalue)
        · exact (hproperties property hmem).type
        · exact hindex id hvalue
      · rintro id ⟨property, hmem, rfl | hreferenced⟩
        · exact (hproperties property hmem).symbol
        · exact (hproperties property hmem).referenced id hreferenced
    · rintro ⟨htypes, hsymbols⟩
      refine ⟨fun property hmem => ⟨?_, ?_, fun id hreferenced => ?_⟩, fun id hvalue => ?_⟩
      · exact hsymbols _ ⟨property, hmem, .inl rfl⟩
      · exact htypes _ (.inl ⟨property, hmem, rfl⟩)
      · exact hsymbols id ⟨property, hmem, .inr hreferenced⟩
      · exact htypes id (.inr hvalue)
  | _ => simp [KindInRange, TypeKind.typeRefs, TypeKind.symbolRefs]

/-- Nothing is missing that a type refers to exactly if its positions are in range. -/
theorem nodeMissing?_eq_none_iff : graph.nodeMissing? node = none ↔ graph.NodeInRange node := by
  have htypes : (node.typeRefs.find? fun id => (graph.type? id).isNone) = none ↔
      ∀ id ∈ node.typeRefs, graph.HasType id := by
    simp only [List.find?_eq_none, type?_isNone, not_not]
  have hsymbols : (node.symbolRefs.find? fun id => (graph.symbol? id).isNone) = none ↔
      ∀ id ∈ node.symbolRefs, graph.HasSymbol id := by
    simp only [List.find?_eq_none, symbol?_isNone, not_not]
  rw [nodeMissing?, Option.or_eq_none_iff, Option.map_eq_none_iff, Option.map_eq_none_iff, htypes,
    hsymbols]
  simp only [TypeNode.typeRefs, TypeNode.symbolRefs, List.mem_append, Option.mem_toList]
  constructor
  · rintro ⟨htypes, hsymbols⟩
    have hkind := kindInRange_iff.2
      ⟨fun id h => htypes id (.inr h), fun id h => hsymbols id (.inr h)⟩
    exact ⟨fun id h => hsymbols id (.inl (.inl h)), fun id h => hsymbols id (.inl (.inr h)),
      fun id h => htypes id (.inl (.inl (.inl h))), fun id h => htypes id (.inl (.inl (.inr h))),
      fun id h => htypes id (.inl (.inr h)), hkind⟩
  · intro h
    obtain ⟨hkindTypes, hkindSymbols⟩ := kindInRange_iff.1 h.kind
    refine ⟨?_, ?_⟩
    · rintro id (((h' | h') | h') | h')
      · exact h.aliasArguments id h'
      · exact h.numberIndex id h'
      · exact h.baseTypes id h'
      · exact hkindTypes id h'
    · rintro id ((h' | h') | h')
      · exact h.symbol id h'
      · exact h.aliasSymbol id h'
      · exact hkindSymbols id h'

theorem nodeInRange_iff {node : TypeNode} : graph.NodeInRange node ↔
    (∀ id ∈ node.typeRefs, graph.HasType id) ∧ ∀ id ∈ node.symbolRefs, graph.HasSymbol id := by
  rw [← nodeMissing?_eq_none_iff, nodeMissing?, Option.or_eq_none_iff, Option.map_eq_none_iff,
    Option.map_eq_none_iff]
  simp only [List.find?_eq_none, type?_isNone, symbol?_isNone, not_not]

theorem nodesFault?_eq_none_iff {nodes : List TypeNode} (index : Nat) :
    graph.nodesFault? index nodes = none ↔ ∀ node ∈ nodes, graph.NodeInRange node := by
  induction nodes generalizing index with
  | nil => simp [nodesFault?]
  | cons node rest ih =>
    rw [nodesFault?, List.forall_mem_cons, ← nodeMissing?_eq_none_iff, ← ih (index + 1)]
    cases graph.nodeMissing? node <;> simp

theorem declarationsFault?_eq_none_iff {declarations : Dict TypeId} :
    graph.declarationsFault? declarations = none ↔
      ∀ entry ∈ declarations, graph.HasType entry.2 := by
  induction declarations with
  | nil => simp [declarationsFault?]
  | cons entry rest ih =>
    obtain ⟨name, id⟩ := entry
    rw [declarationsFault?, List.forall_mem_cons]
    split
    · rename_i hnone
      simp [type?_isNone.1 hnone]
    · rename_i hsome
      rw [type?_isNone, not_not] at hsome
      rw [ih, and_iff_right hsome]

/-- **What `validate` accepts**: the graphs all of whose positions are in range. -/
theorem validate_eq_ok_iff : graph.validate = .ok () ↔ graph.InRange := by
  have hfault : graph.fault? = none ↔ graph.InRange := by
    rw [fault?, Option.or_eq_none_iff, nodesFault?_eq_none_iff, declarationsFault?_eq_none_iff]
    exact ⟨fun ⟨htypes, hdeclarations⟩ => ⟨htypes, hdeclarations⟩,
      fun h => ⟨h.types, h.declarations⟩⟩
  rw [← hfault, validate]
  cases graph.fault? <;> simp

/-! ## What is found -/

theorem found_type (h : graph.HasType id) : Found (graph.lookupType id) := by
  have hget : graph.type? id = some graph.types[id.index.toNat] := Array.getElem?_eq_getElem h
  exact ⟨_, by rw [lookupType, hget]⟩

theorem found_symbol {id : SymbolId} (h : graph.HasSymbol id) : Found (graph.lookupSymbol id) := by
  have hget : graph.symbol? id = some graph.symbols[id.index.toNat] := Array.getElem?_eq_getElem h
  exact ⟨_, by rw [lookupSymbol, hget]⟩

theorem hasType_of_lookupType (h : graph.lookupType id = .ok node) : graph.HasType id :=
  (Array.getElem?_eq_some_iff.1 (lookupType_eq_ok_iff.1 h)).1

/-- The positions that a type of the graph holds are in range. -/
theorem InRange.nodeInRange (h : graph.InRange) (hnode : graph.lookupType id = .ok node) :
    graph.NodeInRange node :=
  h.types node (mem_types hnode)

namespace NodeInRange

/-- The positions of the properties are in range. -/
theorem property (h : graph.NodeInRange node) {property : Property}
    (hmem : property ∈ node.properties) : graph.PropertyInRange property := by
  have hkind := h.kind
  rw [TypeNode.properties] at hmem
  split at hmem
  · rename_i heq
    rw [heq] at hkind
    exact hkind.1 property hmem
  · cases hmem

theorem member (h : graph.NodeInRange node) {members : List TypeId}
    (hkind : node.kind = .union members) (hmem : id ∈ members) : graph.HasType id :=
  (hkind ▸ h.kind : graph.KindInRange (.union members)) id hmem

theorem factor (h : graph.NodeInRange node) {members : List TypeId}
    (hkind : node.kind = .intersection members) (hmem : id ∈ members) : graph.HasType id :=
  (hkind ▸ h.kind : graph.KindInRange (.intersection members)) id hmem

theorem element (h : graph.NodeInRange node) {elements : List TypeId} {minLength : Nat}
    {hasRest : Bool} (hkind : node.kind = .tuple elements minLength hasRest)
    (hmem : id ∈ elements) : graph.HasType id :=
  (hkind ▸ h.kind : graph.KindInRange (.tuple elements minLength hasRest)) id hmem

theorem value (h : graph.NodeInRange node) {properties : List Property} {anonymous : Bool}
    (hkind : node.kind = .object properties anonymous (some id)) : graph.HasType id :=
  (hkind ▸ h.kind : graph.KindInRange (.object properties anonymous (some id))).2 id rfl

end NodeInRange

/-! ## Types as text -/

variable {child : TypeId → Except Missing String}

theorem found_structureText (h : graph.NodeInRange node)
    (hchild : ∀ id, graph.HasType id → Found (child id)) :
    Found (graph.structureText child node) := by
  rw [structureText]
  split
  · rename_i members hkind
    exact (Found.mapM fun id hmem => hchild id (h.member hkind hmem)).map
  · rename_i members hkind
    exact (Found.mapM fun id hmem => hchild id (h.factor hkind hmem)).map
  · rename_i elements minLength hasRest hkind
    exact (Found.mapM fun id hmem => hchild id (h.element hkind hmem)).map
  · rename_i properties anonymous index hkind
    split
    · rename_i element hindex
      have helement := h.numberIndex element hindex
      exact (found_type helement).bind fun _ _ => (hchild element helement).map
    · split
      · exact .pure _
      · have hproperties : ∀ property ∈ properties, Found (graph.propertyText child property) := by
          intro property hmem
          have hlisted : property ∈ node.properties := by rwa [TypeNode.properties, hkind]
          have hproperty := h.property hlisted
          exact (found_symbol hproperty.symbol).bind fun _ _ => (hchild _ hproperty.type).map
        dsimp only
        split
        · rename_i value _
          have hvalue := hchild value (h.value hkind)
          exact hvalue.bind fun _ _ => (Found.mapM hproperties).map
        · exact (Found.mapM hproperties).map
  · exact .pure _

theorem found_nodeText (h : graph.NodeInRange node)
    (hchild : ∀ id, graph.HasType id → Found (child id)) : Found (graph.nodeText child node) := by
  rw [nodeText]
  split
  · rename_i aliasSymbol halias
    refine (found_symbol (h.aliasSymbol aliasSymbol halias)).bind fun symbol _ => ?_
    split
    · exact .pure _
    · exact (Found.mapM fun id hmem => hchild id (h.aliasArguments id hmem)).map
  · split
    · rename_i own hown
      split at hown
      · cases hown
      · exact (found_symbol (h.symbol own hown)).map
    · exact found_structureText h hchild

/-- Every type is printed. -/
theorem InRange.found_print (h : graph.InRange) (levels : Nat) (hid : graph.HasType id) :
    Found (graph.print levels id) := by
  induction levels generalizing id with
  | zero => exact .pure _
  | succ levels ih =>
    rw [print]
    exact (found_type hid).bind fun node hnode => found_nodeText (h.nodeInRange hnode) fun _ => ih

theorem InRange.found_typeText (h : graph.InRange) (hid : graph.HasType id) :
    Found (graph.typeText id) :=
  h.found_print printedLevels hid

/-! ## Questions about a type -/

namespace NodeInRange

/-- The symbol that names a type is in range. -/
theorem namingSymbol (h : graph.NodeInRange node) (id : SymbolId)
    (hnaming : node.namingSymbol = some id) : graph.HasSymbol id := by
  cases halias : node.aliasSymbol with
  | some aliasSymbol =>
    exact h.aliasSymbol id (by simpa [TypeNode.namingSymbol, halias] using hnaming)
  | none => exact h.symbol id (by simpa [TypeNode.namingSymbol, halias] using hnaming)

theorem found_declaringSymbol (h : graph.NodeInRange node) : Found (graph.declaringSymbol node) := by
  rw [declaringSymbol]
  split
  · rename_i id hnaming
    exact (found_symbol (h.namingSymbol id hnaming)).map
  · exact .pure _

theorem found_wrapped? (h : graph.NodeInRange node) : Found (graph.wrapped? node) := by
  rw [wrapped?.eq_def]
  split
  · rename_i aliasSymbol inner rest halias _
    exact (found_symbol (h.aliasSymbol aliasSymbol halias)).map
  · exact .pure _

theorem found_isRaw (h : graph.NodeInRange node) : Found (graph.isRaw node) := by
  have hbranded : ∀ id, node.symbol = some id → Found (graph.isBranded id) :=
    fun id hid => (found_symbol (h.symbol id hid)).map
  rw [isRaw.eq_def]
  split
  · exact .pure _
  · split
    · exact .pure _
    · split
      · rename_i id hid
        exact hbranded id hid
      · exact .pure _
  · rename_i id hid _ _
    exact hbranded id hid
  · exact .pure _

theorem found_isStringUnion (h : graph.NodeInRange node) : Found (graph.isStringUnion node) := by
  rw [isStringUnion]
  split
  · rename_i members hkind
    exact (Found.mapM fun id hmem => found_type (h.member hkind hmem)).map
  · exact .pure _

/-- What a wrapper holds is in range. -/
theorem hasType_of_wrapped? (h : graph.NodeInRange node) {inner : TypeId}
    (hinner : graph.wrapped? node = .ok (some inner)) : graph.HasType inner := by
  rw [wrapped?.eq_def] at hinner
  split at hinner
  · rename_i aliasSymbol first rest halias harguments
    obtain ⟨symbol, hsymbol⟩ := found_symbol (h.aliasSymbol aliasSymbol halias)
    rw [hsymbol] at hinner
    have hfirst : graph.HasType first := h.aliasArguments first (harguments ▸ List.mem_cons_self)
    have hite : (if mutabilityWrappers.contains symbol.name then some first else none) =
        some inner := Except.ok.inj hinner
    split at hite
    · exact Option.some.inj hite ▸ hfirst
    · cases hite
  · cases hinner

end NodeInRange

/-- Looking through wrappers finds a subject, or there is no end to them. -/
theorem InRange.unwrap (h : graph.InRange) (levels : Nat) (named : Option SymbolId)
    (hid : graph.HasType id) : (∃ subject, graph.unwrap levels id named = .ok subject) ∨
      ∃ last, graph.unwrap levels id named = .error (.endlessType last) := by
  induction levels generalizing id named with
  | zero => exact .inr ⟨id, rfl⟩
  | succ levels ih =>
    obtain ⟨node, hnode⟩ := found_type hid
    obtain ⟨found, hfound⟩ := (h.nodeInRange hnode).found_wrapped?
    cases found with
    | some inner =>
      have hstep : graph.unwrap (levels + 1) id named = graph.unwrap levels inner none := by
        rw [TypeGraph.unwrap, hnode]
        show (graph.wrapped? node).mapError Error.missing >>= _ = _
        rw [hfound]
        rfl
      rw [hstep]
      exact ih none ((h.nodeInRange hnode).hasType_of_wrapped? hfound)
    | none =>
      refine .inl ⟨⟨id, node, named⟩, ?_⟩
      rw [TypeGraph.unwrap, hnode]
      show (graph.wrapped? node).mapError Error.missing >>= _ = _
      rw [hfound]
      rfl

/-- The symbol that a subject was asked for by is the one of the request, unless it named a
wrapper. -/
theorem unwrap_named {levels : Nat} {named : Option SymbolId} {subject : Subject}
    (h : graph.unwrap levels id named = .ok subject) :
    subject.named = named ∨ subject.named = none := by
  induction levels generalizing id named with
  | zero => cases h
  | succ levels ih =>
    rcases unwrap_succ levels id named with ⟨missing, heq⟩ | ⟨inner, _, heq⟩ | ⟨node, _, _, heq⟩
    · rw [heq] at h; cases h
    · rw [heq] at h
      exact .inr ((ih h).elim (fun hnone => hnone) fun hnone => hnone)
    · rw [heq] at h
      cases h
      exact .inl rfl

end TypeGraph

/-! ## Catalogs -/

namespace Catalog

variable {catalog : Catalog}

/-- Every position that the catalog holds is in range, and every name it lists is declared. -/
structure Whole (catalog : Catalog) : Prop where
  graph : catalog.graph.InRange
  declared : ∀ entry ∈ catalog.declared, catalog.graph.HasType entry.2
  subtypes : ∀ entry ∈ catalog.subtypes, ∀ name ∈ entry.2,
    Dict.contains catalog.declared name = true

/-- A name that is listed as a subtype is declared for a type of the graph. -/
theorem Whole.exists_declared (h : catalog.Whole) {printed name : String} {names : List String}
    (hnames : Dict.get? catalog.subtypes printed = some names) (hmem : name ∈ names) :
    ∃ id, Dict.get? catalog.declared name = some id ∧ catalog.graph.HasType id := by
  have hdeclared := h.subtypes _ (Dict.mem_of_get? hnames) name hmem
  obtain ⟨id, hid⟩ := Option.isSome_iff_exists.1 hdeclared
  exact ⟨id, hid, h.declared _ (Dict.mem_of_get? hid)⟩

/-- Names that are added to lists of subtypes are there or they are the new one. -/
theorem mem_addSubtype {subtypes : Dict (List String)} {printed name : String}
    {entry : String × List String} (h : entry ∈ addSubtype subtypes printed name) {listed : String}
    (hlisted : listed ∈ entry.2) : listed = name ∨ ∃ old ∈ subtypes, listed ∈ old.2 := by
  rcases Dict.mem_of_mem_insert h with rfl | hold
  · rcases List.mem_append.1 hlisted with hmem | hnew
    · cases hget : Dict.get? subtypes printed with
      | none => simp [hget] at hmem
      | some names =>
        exact .inr ⟨_, Dict.mem_of_get? hget, by simpa [hget] using hmem⟩
    · exact .inl (List.mem_singleton.1 hnew)
  · exact .inr ⟨entry, hold, hlisted⟩

theorem mem_foldl_addSubtype {bases : List String} {subtypes : Dict (List String)} {name : String}
    {entry : String × List String}
    (h : entry ∈ bases.foldl (fun subtypes printed => addSubtype subtypes printed name) subtypes)
    {listed : String} (hlisted : listed ∈ entry.2) :
    listed = name ∨ ∃ old ∈ subtypes, listed ∈ old.2 := by
  induction bases generalizing subtypes with
  | nil => exact .inr ⟨entry, h, hlisted⟩
  | cons printed rest ih =>
    rcases ih h with hname | ⟨old, hold, hmem⟩
    · exact .inl hname
    · exact mem_addSubtype hold hmem

/-- A declaration whose type, symbol and bases are found is entered. -/
theorem addDeclaration_eq {entry : String × TypeId} {node : TypeNode} {symbol : Option Symbol}
    {bases : List String} (hnode : catalog.graph.lookupType entry.2 = .ok node)
    (hsymbol : catalog.graph.declaringSymbol node = .ok symbol)
    (hbases : node.baseTypes.mapM catalog.graph.typeText = .ok bases) :
    catalog.addDeclaration entry = .ok
      { catalog with
        declared := Dict.insert catalog.declared (declaredName catalog.options entry.1 symbol) entry.2
        subtypes := bases.foldl (fun subtypes printed =>
          addSubtype subtypes printed (declaredName catalog.options entry.1 symbol))
          catalog.subtypes } := by
  simp [addDeclaration, hnode, hsymbol, hbases, bind, Except.bind, pure, Except.pure]

/-- What is entered is the declaration's type, and its name under each of its bases. -/
theorem exists_of_addDeclaration {next : Catalog} {entry : String × TypeId}
    (h : catalog.addDeclaration entry = .ok next) :
    ∃ node symbol bases, catalog.graph.lookupType entry.2 = .ok node ∧
      catalog.graph.declaringSymbol node = .ok symbol ∧
      node.baseTypes.mapM catalog.graph.typeText = .ok bases ∧ next = { catalog with
        declared := Dict.insert catalog.declared (declaredName catalog.options entry.1 symbol) entry.2
        subtypes := bases.foldl (fun subtypes printed =>
          addSubtype subtypes printed (declaredName catalog.options entry.1 symbol))
          catalog.subtypes } := by
  rw [addDeclaration] at h
  obtain ⟨node, hnode, h⟩ := bind_eq_ok_iff.1 h
  obtain ⟨symbol, hsymbol, h⟩ := bind_eq_ok_iff.1 h
  obtain ⟨bases, hbases, h⟩ := bind_eq_ok_iff.1 h
  exact ⟨node, symbol, bases, hnode, hsymbol, hbases, (Except.ok.inj h).symm⟩

/-- The catalog of a graph is what entering its declarations leaves. -/
theorem foldlM_of_ofGraph {graph : TypeGraph} {options : Options} {modules : Modules}
    (h : ofGraph graph options modules = .ok catalog) :
    graph.declarations.foldlM addDeclaration { graph, options, modules } = .ok catalog := by
  rw [ofGraph] at h
  split at h
  · cases h
  · exact mapError_eq_ok_iff.1 h

/-- A declaration of a type of the graph is entered, and leaves the catalog whole. -/
theorem Whole.addDeclaration (h : catalog.Whole) {entry : String × TypeId}
    (hentry : catalog.graph.HasType entry.2) :
    ∃ next, catalog.addDeclaration entry = .ok next ∧ next.Whole ∧
      next.graph = catalog.graph ∧ next.reader = catalog.reader := by
  obtain ⟨node, hnode⟩ := TypeGraph.found_type hentry
  have hrange := h.graph.nodeInRange hnode
  obtain ⟨symbol, hsymbol⟩ := hrange.found_declaringSymbol
  obtain ⟨bases, hbases⟩ : Found (node.baseTypes.mapM catalog.graph.typeText) :=
    .mapM fun id hid => h.graph.found_typeText (hrange.baseTypes id hid)
  refine ⟨_, addDeclaration_eq hnode hsymbol hbases, ⟨h.graph, Dict.forall_mem_insert h.declared hentry,
    fun listing hlisting name hname => ?_⟩, rfl, rfl⟩
  rw [Dict.contains_insert, Bool.or_eq_true, decide_eq_true_iff]
  rcases mem_foldl_addSubtype hlisting hname with rfl | ⟨old, hold, hmem⟩
  · exact .inl rfl
  · exact .inr (h.subtypes old hold name hmem)

theorem Whole.foldlM {entries : List (String × TypeId)} (h : catalog.Whole)
    (hentries : ∀ entry ∈ entries, catalog.graph.HasType entry.2) :
    ∃ last, entries.foldlM Catalog.addDeclaration catalog = .ok last ∧ last.Whole ∧
      last.graph = catalog.graph ∧ last.reader = catalog.reader := by
  induction entries generalizing catalog with
  | nil => exact ⟨catalog, rfl, h, rfl, rfl⟩
  | cons entry rest ih =>
    obtain ⟨hfirst, hrest⟩ := List.forall_mem_cons.1 hentries
    obtain ⟨next, hnext, hwhole, hgraph, hreader⟩ := h.addDeclaration hfirst
    obtain ⟨last, hlast, hdone, hsame, hread⟩ := ih hwhole (hgraph ▸ hrest)
    refine ⟨last, ?_, hdone, hsame.trans hgraph, hread.trans hreader⟩
    rw [List.foldlM_cons, hnext]
    exact hlast

/-- **A graph without dangling positions becomes a catalog**, unless it is refused for the problems
that it reports. -/
theorem ofGraph_of_inRange {graph : TypeGraph} (h : graph.InRange) (options : Options)
    (modules : Modules) :
    (options.ignoreErrors = false ∧ graph.diagnostics ≠ [] ∧
      ofGraph graph options modules = .error (.diagnostics graph.diagnostics)) ∨
    ∃ catalog, ofGraph graph options modules = .ok catalog ∧ catalog.Whole ∧
      catalog.graph = graph ∧ catalog.reader = ⟨options.keywords, modules⟩ := by
  rw [ofGraph]
  split
  · rename_i hrefused
    refine .inl ⟨?_, ?_, rfl⟩
    · simp_all
    · simp_all
  · have hstart : Whole { graph, options, modules } :=
      ⟨h, List.forall_mem_nil _, List.forall_mem_nil _⟩
    obtain ⟨last, hlast, hwhole, hgraph, hreader⟩ := hstart.foldlM h.declarations
    exact .inr ⟨last, by rw [hlast]; rfl, hwhole, hgraph, hreader⟩

/-- The catalog is that of the graph, perhaps with definitions that are given and with a hook. -/
def IsOf (catalog : Catalog) (graph : TypeGraph) : Prop :=
  ∃ options modules base, ofGraph graph options modules = .ok base ∧
    catalog = { base with overrides := catalog.overrides, hook := catalog.hook }

theorem IsOf.whole {graph : TypeGraph} (h : catalog.IsOf graph) (hvalid : graph.validate = .ok ()) :
    catalog.Whole ∧ catalog.graph = graph := by
  obtain ⟨options, modules, base, hbase, hcatalog⟩ := h
  rcases ofGraph_of_inRange (TypeGraph.validate_eq_ok_iff.1 hvalid) options modules with
    ⟨_, _, hrefused⟩ | ⟨known, hknown, hwhole, hgraph, _⟩
  · rw [hbase] at hrefused
    cases hrefused
  · obtain rfl := Except.ok.inj (hbase.symm.trans hknown)
    rw [hcatalog]
    exact ⟨⟨hwhole.graph, hwhole.declared, hwhole.subtypes⟩, hgraph⟩

end Catalog

end TypeSchema
