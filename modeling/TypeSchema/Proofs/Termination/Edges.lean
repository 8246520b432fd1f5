import Mathlib.Data.List.Chain
import Mathlib.Data.List.Perm.Subperm
import TypeSchema.Proofs.Building.Contract

/-!
# Ways through the graph

Building the schema of a type leads to the types it is made of, and on from there.  A graph may well
lead back to where one came from; what ends the way is a name that is under construction when it is met
again, and types that are looked through or never become references have none.

`Catalog.Grounded` is the condition that every cycle leads through a type that has one.  A way along
the others then meets no type twice, so it is no longer than there are types
(`TypeGraph.length_le_of_isChain`); and wrappers are looked through in the end
(`Catalog.Grounded.unwrap_ne_endless`).
-/

set_option autoImplicit false

namespace TypeSchema

open Relation

/-! ## Ways without cycles -/

namespace TypeGraph

variable {graph : TypeGraph} {id : TypeId} {node : TypeNode}

/-- The positions of the types. -/
def ids (graph : TypeGraph) : List TypeId :=
  (List.range graph.types.size).map fun n => ⟨.ofNat n⟩

@[simp] theorem length_ids : graph.ids.length = graph.types.size := by
  simp [ids]

theorem mem_ids (h : graph.lookupType id = .ok node) : id ∈ graph.ids := by
  obtain ⟨hlt, _⟩ := Array.getElem?_eq_some_iff.1 (lookupType_eq_ok_iff.1 h)
  exact List.mem_map.2 ⟨id.index.toNat, List.mem_range.2 hlt, by rw [UInt32.ofNat_toNat]⟩

/-- A way along a transitive relation without cycles is no longer than there are types. -/
theorem length_le_of_isChain {R : TypeId → TypeId → Prop} [Trans R R R] (hacyclic : ∀ id, ¬R id id)
    {way : List TypeId} (hway : way.IsChain R) (hmem : ∀ id ∈ way, id ∈ graph.ids) :
    way.length ≤ graph.types.size := by
  have hnodup : way.Nodup := by
    refine (List.isChain_iff_pairwise.1 hway).imp fun h => ?_
    rintro rfl
    exact hacyclic _ h
  rw [← length_ids]
  exact (List.subperm_of_subset hnodup hmem).length_le

/-- Where looking through wrappers does not end, there are as many wrappers as were allowed. -/
theorem exists_wrappers {levels : Nat} {named : Option SymbolId} {last : TypeId}
    (h : graph.unwrap levels id named = .error (.endlessType last)) :
    ∃ way : List TypeId, way.length = levels ∧ way.IsChain graph.Wraps ∧
      (∀ a ∈ way, ∃ b, graph.Wraps a b) ∧ ∀ a ∈ way.head?, a = id := by
  induction levels generalizing id named with
  | zero => exact ⟨[], rfl, .nil, List.forall_mem_nil _, by simp⟩
  | succ levels ih =>
    rcases unwrap_succ levels id named with ⟨missing, heq⟩ | ⟨inner, hwraps, heq⟩ |
      ⟨node, _, _, heq⟩
    · rw [heq] at h; cases h
    · rw [heq] at h
      obtain ⟨way, hlength, hway, hwrappers, hhead⟩ := ih h
      refine ⟨id :: way, by rw [List.length_cons, hlength], ?_, ?_, ?_⟩
      · exact List.isChain_cons.2 ⟨fun a ha => hhead a ha ▸ hwraps, hway⟩
      · exact List.forall_mem_cons.2 ⟨⟨inner, hwraps⟩, hwrappers⟩
      · exact fun a ha => (Option.some.inj ha).symm
    · rw [heq] at h; cases h

end TypeGraph

/-! ## What a type is made of -/

namespace Catalog

variable {catalog : Catalog}

/-- The types that the rules for the structure of a type build. -/
inductive HasPart (catalog : Catalog) (id : TypeId) (node : TypeNode) : TypeId → Prop
  | member {members : List TypeId} {part : TypeId} (hkind : node.kind = .union members)
      (hmem : part ∈ members) : HasPart catalog id node part
  | factor {members : List TypeId} {part : TypeId} (hkind : node.kind = .intersection members)
      (hmem : part ∈ members) : HasPart catalog id node part
  | element {elements : List TypeId} {minLength : Nat} {hasRest : Bool} {part : TypeId}
      (hkind : node.kind = .tuple elements minLength hasRest) (hmem : part ∈ elements) :
      HasPart catalog id node part
  | item {part : TypeId} (hindex : node.numberIndex = some part) : HasPart catalog id node part
  | value {properties : List Property} {anonymous : Bool} {part : TypeId}
      (hkind : node.kind = .object properties anonymous (some part)) : HasPart catalog id node part
  | property {property : Property} (hmem : property ∈ node.properties) :
      HasPart catalog id node property.type
  | subtype {symbol : SymbolId} {base : Symbol} {printed name : String} {names : List String}
      {part : TypeId} (hsymbol : node.symbol = some symbol)
      (hbase : catalog.graph.lookupSymbol symbol = .ok base) (habstract : base.isAbstract = true)
      (hprinted : catalog.graph.typeText id = .ok printed)
      (hnames : Dict.get? catalog.subtypes printed = some names) (hmem : name ∈ names)
      (hdeclared : Dict.get? catalog.declared name = some part) : HasPart catalog id node part

theorem Asks.hasPart {request part : Request} {subject : Subject}
    (h : catalog.Asks request subject part) :
    catalog.HasPart subject.id subject.node part.type := by
  cases h with
  | member hkind hmem _ _ => exact .member hkind hmem
  | factor hkind hmem => exact .factor hkind hmem
  | element hkind hmem => exact .element hkind hmem
  | item hindex => exact .item hindex
  | value hkind => exact .value hkind
  | property hmem _ => exact .property hmem
  | subtype hsymbol hbase habstract hprinted hnames hmem hdeclared =>
    exact .subtype hsymbol hbase habstract hprinted hnames hmem hdeclared

/-- Building the schema of the first type leads to the second one: to what a wrapper holds, and to the
parts of any other type. -/
def LeadsTo (catalog : Catalog) (id part : TypeId) : Prop :=
  catalog.graph.Wraps id part ∨ ∃ node, catalog.graph.lookupType id = .ok node ∧
    catalog.graph.wrapped? node = .ok none ∧ catalog.HasPart id node part

/-- The type of a request leads to what its wrappers hold. -/
theorem leadsTo_of_unwrap {request : Request} {subject : Subject}
    (h : catalog.graph.unwrap (catalog.graph.types.size + 1) request.type request.named =
      .ok subject) : ReflTransGen catalog.LeadsTo request.type subject.id :=
  ReflTransGen.mono (fun _ _ hwraps => .inl hwraps) _ _ (TypeGraph.unwrap_subject h).2.2

/-- It leads to the parts of what they hold. -/
theorem leadsTo_part {request part : Request} {subject : Subject}
    (h : catalog.graph.unwrap (catalog.graph.types.size + 1) request.type request.named =
      .ok subject) (hpart : catalog.Asks request subject part) :
    catalog.LeadsTo subject.id part.type := by
  obtain ⟨hnode, hwrapped, _⟩ := TypeGraph.unwrap_subject h
  exact .inr ⟨_, hnode, hwrapped, hpart.hasPart⟩

/-- The construction of the type is guarded by a name: the type is not raw, or it is known by an
alias. -/
def IsGuarded (catalog : Catalog) (id : TypeId) : Prop :=
  ∃ node, catalog.graph.lookupType id = .ok node ∧
    (catalog.graph.isRaw node = .ok false ∨ node.aliasSymbol.isSome = true)

/-- A step of a way that nothing ends: from a type without a guard, or from a wrapper, which is looked
through before its guard is asked for. -/
def LeadsFreely (catalog : Catalog) (a b : TypeId) : Prop :=
  catalog.LeadsTo a b ∧ (catalog.IsGuarded a → ∃ inner, catalog.graph.Wraps a inner)

/-- Every way from a type back to it leads through a type with a guard that is no wrapper. -/
def Grounded (catalog : Catalog) : Prop :=
  ∀ id, ¬TransGen catalog.LeadsFreely id id

theorem leadsFreely_of_wraps {id inner : TypeId} (h : catalog.graph.Wraps id inner) :
    catalog.LeadsFreely id inner :=
  ⟨.inl h, fun _ => ⟨inner, h⟩⟩

/-- The way from a type without a guard goes on freely through a part and all wrappers around the
subject. -/
theorem transGen_leadsFreely {id part inner : TypeId} (h : catalog.LeadsFreely id part)
    (hwraps : ReflTransGen catalog.graph.Wraps part inner) :
    TransGen catalog.LeadsFreely id inner :=
  .trans_left (.single h) (ReflTransGen.mono (fun _ _ => leadsFreely_of_wraps) _ _ hwraps)

/-- **All wrappers are looked through** where every cycle has a guard. -/
theorem Grounded.unwrap_ne_endless (h : catalog.Grounded) (id last : TypeId)
    (named : Option SymbolId) :
    catalog.graph.unwrap (catalog.graph.types.size + 1) id named ≠ .error (.endlessType last) := by
  intro hendless
  obtain ⟨way, hlength, hway, hwrappers, _⟩ := TypeGraph.exists_wrappers hendless
  have hmem : ∀ a ∈ way, a ∈ catalog.graph.ids := by
    intro a ha
    obtain ⟨_, node, hnode, _⟩ := hwrappers a ha
    exact TypeGraph.mem_ids hnode
  have hfree : way.IsChain (TransGen catalog.LeadsFreely) :=
    hway.imp fun _ _ hwraps => .single (leadsFreely_of_wraps hwraps)
  have hle := TypeGraph.length_le_of_isChain h hfree hmem
  omega

end Catalog

end TypeSchema
