import TypeSchema.Proofs.Graph.Sessions

/-!
# What an operation on a graph in the making does

The operations that answer a type enter one, or find one that is shared (`TypeCall.performed`).  Those on an
object type in the making enter symbols, edit them, and gather what the type will be made of, and the type
is entered or fills a slot at the end.  **`Work.effect`** says of any operation what a session needs to
know: that it is made of changes, that the positions it answers are there and new, and what it does to the
table of shared types.
-/

set_option autoImplicit false

namespace TypeSchema

open TypeGraph Session

/-! ## Types that are entered -/

/-- The position is new in the larger graph. -/
def TypeGraph.IsNew (graph larger : TypeGraph) (id : TypeId) : Prop :=
  id = ⟨UInt32.ofNat graph.types.size⟩ ∧ graph.types.size < larger.types.size

theorem TypeGraph.IsNew.not_hasType {graph larger : TypeGraph} {id : TypeId} (h : graph.IsNew larger id)
    (hroom : larger.types.size ≤ 2 ^ 32) : ¬graph.HasType id := by
  obtain ⟨rfl, hgrows⟩ := h
  rw [HasType, UInt32.toNat_ofNat', Nat.mod_eq_of_lt (by omega)]
  exact Nat.lt_irrefl _

theorem TypeNode.refs_of_key? {kind : TypeKind} {key : String} (h : kind.key? = some key) :
    kind.typeRefs = [] ∧ kind.symbolRefs = [] := by
  cases kind with
  | union => cases h
  | intersection => cases h
  | tuple => cases h
  | object => cases h
  | _ => exact ⟨rfl, rfl⟩

namespace GraphBuilder

variable {b c : GraphBuilder} {slot : TypeId → Prop} {foreign : SymbolId → Prop} {node : TypeNode}
  {result : TypeId × GraphBuilder} {key : String}

/-- A type was entered, and the table of shared types is as it was. -/
structure Entered (slot : TypeId → Prop) (foreign : SymbolId → Prop) (b : GraphBuilder)
    (result : TypeId × GraphBuilder) : Prop where
  changes : Changes slot foreign b result.2
  isNew : b.graph.IsNew result.2.graph result.1
  hasType : result.2.graph.HasType result.1
  shared : result.2.shared = b.shared

theorem entered_addType (h : b.graph.NodeInRange node) : Entered slot foreign b (b.addType node) where
  changes := .single (.addType h)
  isNew := ⟨rfl, by simp [addType]⟩
  hasType := hasType_freshType b node
  shared := rfl

/-- Something else is done first. -/
theorem Entered.after (h : Entered slot foreign c result) (hchange : Change slot foreign b c)
    (htypes : c.graph.types = b.graph.types) (hshared : c.shared = b.shared) :
    Entered slot foreign b result where
  changes := .head hchange h.changes
  isNew := by
    have hnew := h.isNew
    rwa [IsNew, htypes] at hnew
  hasType := h.hasType
  shared := h.shared.trans hshared

/-- The type is declared. -/
theorem Entered.declare (h : Entered slot foreign b result) (name : String) :
    Entered slot foreign b (result.1, result.2.declare name result.1) where
  changes := h.changes.tail (.declare name h.hasType)
  isNew := h.isNew
  hasType := h.hasType
  shared := h.shared

/-- A shared type was asked for: it is known, or it was entered. -/
inductive Asked (slot : TypeId → Prop) (foreign : SymbolId → Prop) (key : String) (b : GraphBuilder) :
    TypeId × GraphBuilder → Prop
  | known {id : TypeId} (hknown : b.shared.lookup key = some id) : Asked slot foreign key b (id, b)
  | entered {id : TypeId} {c : GraphBuilder} (hnew : b.shared.lookup key = none)
      (hentered : Entered slot foreign b (id, c)) :
      Asked slot foreign key b (id, { c with shared := (key, id) :: c.shared })

theorem Asked.changes (h : Asked slot foreign key b result) : Changes slot foreign b result.2 := by
  cases h with
  | known => exact .refl
  | entered _ hentered => exact hentered.changes.tail (.remember key hentered.hasType)

theorem Asked.hasType (h : Asked slot foreign key b result) (hb : b.InRange) :
    result.2.graph.HasType result.1 := by
  cases h with
  | known hknown => exact hb.shared _ (mem_of_lookup hknown)
  | entered _ hentered => exact hentered.hasType

/-- The table of shared types has the type in the end. -/
theorem Asked.shared (h : Asked slot foreign key b result) :
    b.shared.lookup key = some result.1 ∧ result.2.shared = b.shared ∨
      b.shared.lookup key = none ∧ b.graph.IsNew result.2.graph result.1 ∧
        result.2.shared = (key, result.1) :: b.shared := by
  cases h with
  | known hknown => exact .inl ⟨hknown, rfl⟩
  | entered hnew hentered => exact .inr ⟨hnew, hentered.isNew, by rw [← hentered.shared]⟩

theorem asked_share {enter : GraphBuilder → TypeId × GraphBuilder}
    (h : Entered slot foreign b (enter b)) : Asked slot foreign key b (b.share key enter) := by
  rw [share]
  split
  · next id hknown => exact .known hknown
  · next hnew => exact .entered hnew h

/-- A type that refers to nothing. -/
theorem nodeInRange_of_kind {graph : TypeGraph} {kind : TypeKind} (htypes : kind.typeRefs = [])
    (hsymbols : kind.symbolRefs = []) : graph.NodeInRange { kind } :=
  nodeInRange_iff.2
    ⟨by simp [TypeNode.typeRefs, htypes], by simp [TypeNode.symbolRefs, hsymbols]⟩

theorem asked_shareKind {kind : TypeKind} (h : kind.key? = some key) :
    Asked slot foreign key b (b.shareKind kind) := by
  obtain ⟨htypes, hsymbols⟩ := TypeNode.refs_of_key? h
  rw [shareKind, h]
  exact asked_share (entered_addType (nodeInRange_of_kind htypes hsymbols))

/-- A type of which nothing is known but its symbol. -/
theorem nodeInRange_of_symbol {graph : TypeGraph} {kind : TypeKind} {symbol : SymbolId}
    (htypes : kind.typeRefs = []) (hsymbols : kind.symbolRefs = []) (h : graph.HasSymbol symbol) :
    graph.NodeInRange { kind, symbol := some symbol } :=
  nodeInRange_iff.2 ⟨by simp [TypeNode.typeRefs, htypes], by simpa [TypeNode.symbolRefs, hsymbols] using h⟩

theorem asked_date : Asked slot foreign "Date" b b.date :=
  asked_share (.after (entered_addType (nodeInRange_of_symbol rfl rfl (hasSymbol_freshSymbol b _)))
    (.addSymbol (.inl rfl)) rfl rfl)

theorem asked_integer : Asked slot foreign "integer" b b.integer :=
  asked_share (.after (entered_addType (nodeInRange_of_symbol rfl rfl (hasSymbol_freshSymbol b _)))
    (.declaredSymbol "integer" .typeAlias) rfl rfl)

theorem asked_intrinsic (asked : Intrinsic) : Asked slot foreign asked.key b (asked.enter b) := by
  cases asked with
  | keyword word => exact asked_shareKind word.key?_kind
  | date => exact asked_date
  | integer => exact asked_integer

theorem entered_enumeration (name : String) (members : List EnumMember) :
    Entered slot foreign b (b.enumeration name members) := by
  refine .declare (.after (entered_addType ?_) (.declaredSymbol name .enum) rfl rfl) name
  exact nodeInRange_of_symbol rfl rfl (hasSymbol_freshSymbol b _)

theorem entered_aliasWith (hb : b.InRange) (name : String) {target : TypeId} {arguments : List TypeId}
    (harguments : ∀ id ∈ arguments, b.graph.HasType id) :
    Entered slot foreign b (b.aliasWith name target arguments) := by
  have hchange : Change slot foreign b (b.declaredSymbol name .typeAlias).2 := .declaredSymbol name _
  have htarget : b.graph.NodeInRange ((b.graph.type? target).getD { kind := .never }) := by
    cases hnode : b.graph.type? target with
    | none => exact nodeInRange_of_kind rfl rfl
    | some node => exact hb.graph.of_type? hnode
  refine .declare (.after (entered_addType ?_) hchange rfl rfl) name
  have hnode := hchange.within.nodeInRange htarget
  exact { hnode with
    aliasSymbol := fun id hid => by
      cases hid
      exact hasSymbol_freshSymbol b _
    aliasArguments := fun id hid => hchange.within.hasType (harguments id hid) }

end GraphBuilder

open GraphBuilder

namespace Session

/-- The text by which a shared type is asked for. -/
def TypeCall.key? : TypeCall → Option String
  | .intrinsic asked => some asked.key
  | .stringLiteral value => (TypeKind.stringLiteral value).key?
  | .numberLiteral value => (TypeKind.numberLiteral value).key?
  | .booleanLiteral value => (TypeKind.booleanLiteral value).key?
  | _ => none

/-- Operations that answer a type ask for one that is shared or enter one. -/
theorem TypeCall.performed {b : GraphBuilder} (call : TypeCall) (slot : TypeId → Prop)
    (foreign : SymbolId → Prop) (hb : b.InRange) (htypes : ∀ id ∈ (Operation.type call).typeIds, b.graph.HasType id)
    (hsymbols : ∀ id ∈ (Operation.type call).symbolIds, b.graph.HasSymbol id) :
    (∀ key, call.key? = some key → Asked slot foreign key b (call.perform b)) ∧
      (call.key? = none → Entered slot foreign b (call.perform b)) := by
  have hnode : ∀ node : TypeNode, node.typeRefs = (Operation.type call).typeIds → node.symbolRefs = [] →
      b.graph.NodeInRange node := fun node htypeRefs hsymbolRefs =>
    nodeInRange_iff.2 ⟨fun id hid => htypes id (htypeRefs ▸ hid), by simp [hsymbolRefs]⟩
  have hkind : ∀ kind key, TypeKind.key? kind = some key → Asked slot foreign key b (b.shareKind kind) :=
    fun _ _ => asked_shareKind
  cases call with
  | add node => exact ⟨nofun, fun _ => entered_addType (nodeInRange_iff.2 ⟨htypes, hsymbols⟩)⟩
  | reserve => exact ⟨nofun, fun _ => entered_addType (hnode _ rfl rfl)⟩
  | intrinsic asked =>
    refine ⟨fun key hkey => ?_, nofun⟩
    cases hkey
    exact asked_intrinsic asked
  | stringLiteral value => exact ⟨hkind (.stringLiteral value), nofun⟩
  | numberLiteral value => exact ⟨hkind (.numberLiteral value), nofun⟩
  | booleanLiteral value => exact ⟨hkind (.booleanLiteral value), nofun⟩
  | union members => exact ⟨nofun, fun _ => entered_addType (hnode _ rfl rfl)⟩
  | intersection members => exact ⟨nofun, fun _ => entered_addType (hnode _ rfl rfl)⟩
  | array element => exact ⟨nofun, fun _ => entered_addType (hnode _ rfl rfl)⟩
  | tuple elements minLength hasRest => exact ⟨nofun, fun _ => entered_addType (hnode _ rfl rfl)⟩
  | enumeration name members => exact ⟨nofun, fun _ => entered_enumeration name members⟩
  | aliasWith name target arguments =>
    exact ⟨nofun, fun _ => entered_aliasWith hb name fun id hid => htypes id (List.mem_cons_of_mem _ hid)⟩

end Session

/-! ## Object types in the making -/

theorem Symbol.declaration_withDocs (s : Symbol) (docs : List String) :
    (docs.foldl Symbol.withDoc s).declaration = s.declaration := by
  induction docs generalizing s with
  | nil => rfl
  | cons text docs ih => exact ih (s.withDoc text)

theorem Symbol.declaration_withTags (s : Symbol) (tags : List (String × Option String)) :
    (tags.foldl (fun (s : Symbol) (name, text) => s.withTag name text) s).declaration =
      s.declaration := by
  induction tags generalizing s with
  | nil => rfl
  | cons tag tags ih => exact ih (s.withTag tag.1 tag.2)

/-- What a declaration declares may change. -/
theorem GraphBuilder.keepsPlaces_declaration {change : Declaration → Declaration}
    (h : ∀ d, (change d).position = d.position) :
    KeepsPlaces fun s => { s with declaration := s.declaration.map change } := fun s => by
  rw [Option.map_map]
  exact congrArg (fun position => s.declaration.map position) (funext h)

namespace ObjectBuilder

variable {o : ObjectBuilder} {slot : TypeId → Prop} {foreign : SymbolId → Prop}

/-- What the object type is made of so far. -/
def node (o : ObjectBuilder) : TypeNode :=
  { kind := .object o.properties o.isAnonymous o.index
    symbol := some o.symbol
    aliasSymbol := o.aliasSymbol
    baseTypes := o.baseTypes }

/-- Every position in the graph and in the object type is in range. -/
structure InRange (o : ObjectBuilder) : Prop where
  builder : o.builder.InRange
  node : o.builder.graph.NodeInRange o.node

/-- More is known of the object type. -/
structure Becomes (slot : TypeId → Prop) (foreign : SymbolId → Prop) (b : GraphBuilder)
    (o : ObjectBuilder) : Prop where
  changes : Changes slot foreign b o.builder
  node : o.builder.graph.NodeInRange o.node
  shared : o.builder.shared = b.shared

theorem becomes_modify {change : Symbol → Symbol} (hnode : o.builder.graph.NodeInRange o.node)
    (id : SymbolId) (hplace : KeepsPlaces change) :
    Becomes slot foreign o.builder (o.onBuilder fun b => b.modifySymbol id change) := by
  have hchange : Change slot foreign o.builder (o.builder.modifySymbol id change) :=
    .modifySymbol (.inl hplace)
  exact ⟨.single hchange, hchange.within.nodeInRange hnode, rfl⟩

theorem becomes_named (ho : o.InRange) (name : String) :
    Becomes slot foreign o.builder (o.named name) := by
  have hchange : Change slot foreign o.builder (o.builder.declaredSymbol name .typeAlias).2 :=
    .declaredSymbol name _
  have hnode := hchange.within.nodeInRange ho.node
  refine ⟨.single hchange, { hnode with aliasSymbol := fun id hid => ?_ }, rfl⟩
  cases hid
  exact hasSymbol_freshSymbol o.builder _

theorem becomes_extending (ho : o.InRange) {base : TypeId} (hbase : o.builder.graph.HasType base) :
    Becomes slot foreign o.builder (o.extending base) := by
  refine ⟨.refl, { ho.node with baseTypes := fun id hid => ?_ }, rfl⟩
  rcases List.mem_append.1 hid with hid | hid
  · exact ho.node.baseTypes id hid
  · exact List.mem_singleton.1 hid ▸ hbase

theorem becomes_indexedBy (ho : o.InRange) {value : TypeId} (hvalue : o.builder.graph.HasType value) :
    Becomes slot foreign o.builder (o.indexedBy value) := by
  have hnode : o.builder.graph.NodeInRange { o with index := some value }.node :=
    { ho.node with kind := ⟨ho.node.kind.1, fun id hid => Option.some.inj hid ▸ hvalue⟩ }
  unfold indexedBy
  dsimp only
  split
  · exact becomes_modify (o := { o with index := some value }) hnode o.symbol
      (keepsPlaces_declaration fun _ => rfl)
  · exact ⟨.refl, hnode, rfl⟩

/-- The symbol a type is known by is one of the graph. -/
theorem hasSymbol_knownBy? {graph : TypeGraph} (h : graph.InRange) {id : TypeId} {symbol : SymbolId}
    (hknown : knownBy? graph id = some symbol) : graph.HasSymbol symbol := by
  obtain ⟨node, hnode, hsymbol⟩ := Option.bind_eq_some_iff.1 hknown
  have hrange := h.of_type? hnode
  rcases Option.or_eq_some_iff.1 hsymbol with halias | ⟨_, hown⟩
  · exact hrange.aliasSymbol symbol halias
  · split at hown
    · cases hown
    · exact hrange.symbol symbol hown

theorem becomes_property (ho : o.InRange) {spec : PropertySpec} (htype : o.builder.graph.HasType spec.type)
    (hreferences : ∀ id, spec.references = some id → o.builder.graph.HasSymbol id) :
    Becomes slot foreign o.builder (o.property spec) := by
  let entered : Symbol := spec.tags.foldl (fun (s : Symbol) (name, text) => s.withTag name text)
    (spec.docs.foldl Symbol.withDoc { name := spec.name })
  have hplace : entered.declaration = none :=
    (Symbol.declaration_withTags _ _).trans (Symbol.declaration_withDocs _ _)
  have hchange : Change slot foreign o.builder (o.builder.addSymbol entered).2 := .addSymbol (.inl hplace)
  have hnode := hchange.within.nodeInRange ho.node
  have hgraph := (hchange.inRange ho.builder).graph
  refine ⟨.single hchange, { hnode with kind := ⟨fun property hproperty => ?_, hnode.kind.2⟩ }, rfl⟩
  rcases List.mem_append.1 hproperty with hold | hnew
  · exact hnode.kind.1 property hold
  · obtain rfl := List.mem_singleton.1 hnew
    refine ⟨hasSymbol_freshSymbol o.builder entered, hchange.within.hasType htype, fun id hid => ?_⟩
    rcases Option.or_eq_some_iff.1 hid with hgiven | ⟨_, hknown⟩
    · exact hchange.within.hasSymbol (hreferences id hgiven)
    · exact hasSymbol_knownBy? hgraph hknown

theorem buildInto_changes (foreign : SymbolId → Prop) (ho : o.InRange) {id : TypeId} (hslot : slot id)
    (hid : o.builder.graph.HasType id) :
    Changes slot foreign o.builder (o.buildInto id).2 ∧ (o.buildInto id).2.shared = o.builder.shared := by
  have hdefined : Change slot foreign o.builder (o.builder.define id o.node) := .define hslot ho.node
  unfold buildInto
  dsimp only
  split
  · exact ⟨.tail (.single hdefined) (.declare _ (hdefined.within.hasType hid)), rfl⟩
  · exact ⟨.single hdefined, rfl⟩

/-- The object type is entered as a placeholder and then defined. -/
theorem entered_build (foreign : SymbolId → Prop) (ho : o.InRange) (hslot : slot o.builder.freshType) :
    Entered slot foreign o.builder o.build := by
  have hreserved : Entered slot foreign o.builder o.builder.reserve :=
    entered_addType (nodeInRange_of_kind rfl rfl)
  have hwithin := hreserved.changes.within
  have hopen : InRange { o with builder := o.builder.reserve.2 } :=
    ⟨hreserved.changes.inRange ho.builder, hwithin.nodeInRange ho.node⟩
  obtain ⟨hchanges, hshared⟩ := buildInto_changes foreign hopen hslot hreserved.hasType
  exact
    { changes := hreserved.changes.trans hchanges
      isNew := ⟨rfl, Nat.lt_of_lt_of_le hreserved.isNew.2 hchanges.within.types⟩
      hasType := hchanges.within.hasType hreserved.hasType
      shared := hshared.trans hreserved.shared }

end ObjectBuilder

open ObjectBuilder

namespace Session

theorem Opening.performed {b : GraphBuilder} {slot : TypeId → Prop} {foreign : SymbolId → Prop}
    (call : Opening) : Becomes slot foreign b (call.perform b) := by
  have hdeclared : ∀ (name : String) (kind : DeclarationKind) (isAnonymous : Bool) (as : Option String),
      Becomes slot foreign b
        { builder := (b.declaredSymbol name kind).2, symbol := (b.declaredSymbol name kind).1,
          isAnonymous, declaredAs := as } := fun name kind isAnonymous as =>
    ⟨.single (.declaredSymbol name kind), nodeInRange_of_symbol rfl rfl (hasSymbol_freshSymbol b _), rfl⟩
  cases call with
  | interface name => exact hdeclared name .interface false (some name)
  | classType name => exact hdeclared name .classType false (some name)
  | typeLiteral => exact hdeclared typeLiteralName .typeLiteral true none

theorem Part.performed {o : ObjectBuilder} {slot : TypeId → Prop} {foreign : SymbolId → Prop} (call : Part)
    (ho : o.InRange) (htypes : ∀ id ∈ (Operation.part call).typeIds, o.builder.graph.HasType id)
    (hsymbols : ∀ id ∈ (Operation.part call).symbolIds, o.builder.graph.HasSymbol id) :
    Becomes slot foreign o.builder (call.perform o) := by
  cases call with
  | named name => exact becomes_named ho name
  | doc text => exact becomes_modify ho.node _ fun _ => rfl
  | tag name text => exact becomes_modify ho.node _ fun _ => rfl
  | isAbstract => exact becomes_modify ho.node _ (keepsPlaces_declaration fun _ => rfl)
  | extending base => exact becomes_extending ho (htypes base List.mem_cons_self)
  | indexedBy value => exact becomes_indexedBy ho (htypes value List.mem_cons_self)
  | property spec =>
    exact becomes_property ho (htypes spec.type List.mem_cons_self)
      fun id hid => hsymbols id (Option.mem_toList.2 hid)

/-! ## Operations in general -/

/-- Every position in what there is to go on with is in range. -/
def Work.InRange : Work → Prop
  | .graph b => b.InRange
  | .object o => o.InRange

namespace Operation

/-- The text by which a shared type is asked for. -/
def key? : Operation → Option String
  | .type call => call.key?
  | _ => none

/-- Where the operation brings a declaration of its own, the symbol is foreign. -/
def Admits (foreign : SymbolId → Prop) (b : GraphBuilder) : Operation → Prop
  | .symbol (.add entered) => entered.declaration = none ∨ foreign b.freshSymbol
  | .edit (.modifySymbol id change) => KeepsPlaces change ∨ foreign id
  | _ => True

theorem admits_all (operation : Operation) (b : GraphBuilder) : operation.Admits (fun _ => True) b := by
  unfold Admits
  split <;> simp

/-- The types that the operation may define: the slot that is filled, and one that is entered. -/
def MayDefine (operation : Operation) (graph larger : TypeGraph) (id : TypeId) : Prop :=
  operation.slot? = some id ∨ graph.IsNew larger id

end Operation

variable {work next : Work} {operation : Operation} {answer : Answer}

/-- What an operation does. -/
structure Work.Effect (operation : Operation) (work : Work) (answer : Answer) (next : Work) : Prop where
  changes : ∀ foreign, operation.Admits foreign work.builder →
    Changes (operation.MayDefine work.builder.graph next.builder.graph) foreign work.builder next.builder
  inRange : next.InRange
  hasType : ∀ id, answer = .type id → next.builder.graph.HasType id
  hasSymbol : ∀ id, answer = .symbol id → next.builder.graph.HasSymbol id
  /-- A shared type is known, or it is new and is remembered. -/
  keyed : ∀ key, operation.key? = some key → ∃ id, answer = .type id ∧
    (work.builder.shared.lookup key = some id ∧ next.builder.shared = work.builder.shared ∨
      work.builder.shared.lookup key = none ∧ work.builder.graph.IsNew next.builder.graph id ∧
        next.builder.shared = (key, id) :: work.builder.shared)
  /-- Other types are new, or they are in a slot. -/
  unkeyed : operation.key? = none → next.builder.shared = work.builder.shared ∧
    ∀ id, answer = .type id → operation.MayDefine work.builder.graph next.builder.graph id

/-- Nothing is remembered but what was asked for and is new. -/
theorem Work.Effect.shared (h : work.Effect operation answer next) :
    next.builder.shared = work.builder.shared ∨ ∃ key id, operation.key? = some key ∧
      answer = .type id ∧ work.builder.shared.lookup key = none ∧
      work.builder.graph.IsNew next.builder.graph id ∧
      next.builder.shared = (key, id) :: work.builder.shared := by
  cases hkey : operation.key? with
  | none => exact .inl (h.unkeyed hkey).1
  | some key =>
    obtain ⟨id, hanswer, ⟨_, hshared⟩ | ⟨hlookup, hnew, hshared⟩⟩ := h.keyed key hkey
    · exact .inl hshared
    · exact .inr ⟨key, id, rfl, hanswer, hlookup, hnew, hshared⟩

/-- What is found in the table is found there again. -/
theorem Work.Effect.lookup (h : work.Effect operation answer next) {key : String} {id : TypeId}
    (hknown : work.builder.shared.lookup key = some id) : next.builder.shared.lookup key = some id := by
  rcases h.shared with hshared | ⟨other, _, _, _, hnone, _, hshared⟩
  · rw [hshared, hknown]
  · have hne : key ≠ other := by
      rintro rfl
      cases hknown.symm.trans hnone
    rw [hshared, List.lookup_cons, beq_false_of_ne hne]
    exact hknown

/-- The changes that an operation is made of, whatever is foreign. -/
theorem Work.Effect.changes_all (h : work.Effect operation answer next) :
    Changes (operation.MayDefine work.builder.graph next.builder.graph) (fun _ => True) work.builder
      next.builder :=
  h.changes _ (operation.admits_all work.builder)

theorem Work.InRange.builder (h : work.InRange) : work.builder.InRange := by
  cases work with
  | graph b => exact h
  | object o => exact ObjectBuilder.InRange.builder h

/-- A shared type is asked for. -/
theorem Work.Effect.of_asked {b : GraphBuilder} {call : TypeCall} {key : String} (hkey : call.key? = some key)
    (hb : b.InRange) (hasked : ∀ slot foreign, Asked slot foreign key b (call.perform b)) :
    Work.Effect (.type call) (.graph b) (.type (call.perform b).1) (.graph (call.perform b).2) := by
  have hany := hasked (fun _ => True) fun _ => True
  refine
    { changes := fun foreign _ => (hasked _ foreign).changes
      inRange := hany.changes.inRange hb
      hasType := fun id hid => ?_
      hasSymbol := nofun
      keyed := fun other hother => ⟨_, rfl, ?_⟩
      unkeyed := fun hnone => ?_ }
  · cases hid
    exact hany.hasType hb
  · obtain rfl : key = other := Option.some.inj (hkey.symm.trans hother)
    exact hany.shared
  · cases hkey.symm.trans hnone

/-- An operation that asks for no shared type. -/
theorem Work.Effect.of_unkeyed (hkey : operation.key? = none) (hwork : work.builder.InRange)
    (hchanges : ∀ foreign, operation.Admits foreign work.builder →
      Changes (operation.MayDefine work.builder.graph next.builder.graph) foreign work.builder next.builder)
    (hnext : next.builder.InRange → next.InRange)
    (hshared : next.builder.shared = work.builder.shared)
    (htype : ∀ id, answer = .type id → next.builder.graph.HasType id ∧
      operation.MayDefine work.builder.graph next.builder.graph id)
    (hsymbol : ∀ id, answer = .symbol id → next.builder.graph.HasSymbol id) :
    work.Effect operation answer next where
  changes := hchanges
  inRange := hnext ((hchanges _ (operation.admits_all work.builder)).inRange hwork)
  hasType id hid := (htype id hid).1
  hasSymbol := hsymbol
  keyed key hsome := by cases hkey.symm.trans hsome
  unkeyed _ := ⟨hshared, fun id hid => (htype id hid).2⟩

theorem TypeCall.effect {b : GraphBuilder} (call : TypeCall) (hb : b.InRange)
    (htypes : ∀ id ∈ (Operation.type call).typeIds, b.graph.HasType id)
    (hsymbols : ∀ id ∈ (Operation.type call).symbolIds, b.graph.HasSymbol id) :
    Work.Effect (.type call) (.graph b) (.type (call.perform b).1) (.graph (call.perform b).2) := by
  have hperformed := fun slot foreign => call.performed slot foreign hb htypes hsymbols
  cases hkey : call.key? with
  | some key => exact .of_asked hkey hb fun slot foreign => (hperformed slot foreign).1 key hkey
  | none =>
    have hentered : ∀ slot foreign, Entered slot foreign b (call.perform b) :=
      fun slot foreign => (hperformed slot foreign).2 hkey
    have hany := hentered (fun _ => True) fun _ => True
    refine .of_unkeyed hkey hb (fun foreign _ => (hentered _ foreign).changes) id hany.shared ?_ nofun
    rintro id ⟨⟩
    exact ⟨hany.hasType, .inr hany.isNew⟩

theorem SymbolCall.effect {b : GraphBuilder} (call : SymbolCall) (hb : b.InRange) :
    Work.Effect (.symbol call) (.graph b) (.symbol (call.perform b).1) (.graph (call.perform b).2) := by
  cases call with
  | add symbol =>
    refine .of_unkeyed rfl hb (fun foreign hadmits => .single (.addSymbol hadmits)) id rfl nofun ?_
    rintro id ⟨⟩
    exact hasSymbol_freshSymbol b symbol
  | declared name kind =>
    refine .of_unkeyed rfl hb (fun foreign _ => .single (.declaredSymbol name kind)) id rfl nofun ?_
    rintro id ⟨⟩
    exact hasSymbol_freshSymbol b _

theorem Edit.effect {b : GraphBuilder} (call : Edit) (hb : b.InRange)
    (htypes : ∀ id ∈ (Operation.edit call).typeIds, b.graph.HasType id)
    (hsymbols : ∀ id ∈ (Operation.edit call).symbolIds, b.graph.HasSymbol id) :
    Work.Effect (.edit call) (.graph b) .nothing (.graph (call.perform b)) := by
  have hone : (∀ foreign, (Operation.edit call).Admits foreign b →
      Change ((Operation.edit call).MayDefine b.graph (call.perform b).graph) foreign b (call.perform b)) →
      (call.perform b).shared = b.shared →
      Work.Effect (.edit call) (.graph b) .nothing (.graph (call.perform b)) := fun hchange hshared =>
    .of_unkeyed rfl hb (fun foreign hadmits => .single (hchange foreign hadmits)) id hshared nofun nofun
  cases call with
  | inFile file => exact hone (fun _ _ => .inFile file) rfl
  | define slot node =>
    exact hone (fun _ _ => .define (.inl rfl) (nodeInRange_iff.2 ⟨htypes, hsymbols⟩)) rfl
  | declare name target => exact hone (fun _ _ => .declare name (htypes target List.mem_cons_self)) rfl
  | diagnostic problem => exact hone (fun _ _ => .diagnostic problem) rfl
  | modifySymbol symbol change => exact hone (fun _ hadmits => .modifySymbol hadmits) rfl

theorem Closing.effect {o : ObjectBuilder} (call : Closing) (ho : o.InRange)
    (hslot : ∀ id, (Operation.closing call).slot? = some id → o.builder.graph.HasType id) :
    Work.Effect (.closing call) (.object o) (call.perform o).1 (.graph (call.perform o).2) := by
  cases call with
  | build =>
    have hnew : o.builder.graph.IsNew o.build.2.graph o.build.1 :=
      (entered_build (fun _ => True) ho trivial : Entered (fun _ => True) _ _ _).isNew
    have hentered : ∀ foreign, Entered ((Operation.closing .build).MayDefine o.builder.graph o.build.2.graph)
        foreign o.builder o.build := fun foreign => entered_build foreign ho (.inr hnew)
    have hany := hentered fun _ => True
    refine .of_unkeyed rfl ho.builder (fun foreign _ => (hentered foreign).changes) id hany.shared ?_ nofun
    rintro id ⟨⟩
    exact ⟨hany.hasType, .inr hnew⟩
  | buildInto slot =>
    have hid := hslot slot rfl
    have hinto : ∀ foreign,
        Changes ((Operation.closing (.buildInto slot)).MayDefine o.builder.graph (o.buildInto slot).2.graph)
          foreign o.builder (o.buildInto slot).2 ∧ (o.buildInto slot).2.shared = o.builder.shared :=
      fun foreign => buildInto_changes foreign ho (.inl rfl) hid
    obtain ⟨hchanges, hshared⟩ := hinto fun _ => True
    refine .of_unkeyed rfl ho.builder (fun foreign _ => (hinto foreign).1) id hshared ?_ nofun
    rintro id ⟨⟩
    exact ⟨hchanges.within.hasType hid, .inl rfl⟩
  | drop => exact .of_unkeyed rfl ho.builder (fun _ _ => .refl) id rfl nofun nofun

theorem Opening.effect {b : GraphBuilder} (call : Opening) (hb : b.InRange) :
    Work.Effect (.opening call) (.graph b) .nothing (.object (call.perform b)) := by
  have hbecomes : ∀ slot foreign, Becomes slot foreign b (call.perform b) := fun _ _ => call.performed
  have hany := hbecomes (fun _ => True) fun _ => True
  exact .of_unkeyed rfl hb (fun foreign _ => (hbecomes _ foreign).changes) (fun hnext => ⟨hnext, hany.node⟩)
    hany.shared nofun nofun

theorem Part.effect {o : ObjectBuilder} (call : Part) (ho : o.InRange)
    (htypes : ∀ id ∈ (Operation.part call).typeIds, o.builder.graph.HasType id)
    (hsymbols : ∀ id ∈ (Operation.part call).symbolIds, o.builder.graph.HasSymbol id) :
    Work.Effect (.part call) (.object o) .nothing (.object (call.perform o)) := by
  have hbecomes : ∀ slot foreign, Becomes slot foreign o.builder (call.perform o) :=
    fun _ _ => call.performed ho htypes hsymbols
  have hany := hbecomes (fun _ => True) fun _ => True
  exact .of_unkeyed rfl ho.builder (fun foreign _ => (hbecomes _ foreign).changes)
    (fun hnext => ⟨hnext, hany.node⟩) hany.shared nofun nofun

/-- **What any operation does** that is passed what is there. -/
theorem Work.effect (h : work.perform operation = some (answer, next)) (hwork : work.InRange)
    (htypes : ∀ id ∈ operation.typeIds, work.builder.graph.HasType id)
    (hsymbols : ∀ id ∈ operation.symbolIds, work.builder.graph.HasSymbol id)
    (hslot : ∀ id, operation.slot? = some id → work.builder.graph.HasType id) :
    work.Effect operation answer next := by
  cases work with
  | graph b => cases operation with
    | type call =>
      cases h
      exact call.effect hwork htypes hsymbols
    | symbol call =>
      cases h
      exact call.effect hwork
    | edit call =>
      cases h
      exact call.effect hwork htypes hsymbols
    | opening call =>
      cases h
      exact call.effect hwork
    | part call => cases h
    | closing call => cases h
  | object o => cases operation with
    | part call =>
      cases h
      exact call.effect hwork htypes hsymbols
    | closing call =>
      cases h
      exact call.effect hwork hslot
    | type call => cases h
    | symbol call => cases h
    | edit call => cases h
    | opening call => cases h

end Session

end TypeSchema
