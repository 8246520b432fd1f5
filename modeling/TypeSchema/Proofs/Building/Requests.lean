import TypeSchema.Proofs.Building.Steps
import TypeSchema.Proofs.Building.Wrappers

/-!
# What a rule asks for

A rule builds the schema of a type from those of its parts, and asks for these.  `Catalog.Asks` lists
the requests that the rule for a subject can make, and `Catalog.Described` says what is known of the
owner that a request names: its annotations are those of its symbol, and the type is built for it.
-/

set_option autoImplicit false

namespace TypeSchema

namespace Catalog

/-- The annotations of the owner are what its symbol says. -/
def Describes (catalog : Catalog) (owner : Owner) : Prop :=
  ∃ symbol, catalog.graph.lookupSymbol owner.symbol = .ok symbol ∧
    catalog.reader.read symbol = .ok owner.annotations

/-- The annotations of a symbol are one thing. -/
theorem Describes.unique {catalog : Catalog} {id : SymbolId} {annotations annotations' : Annotations}
    (h : catalog.Describes ⟨id, annotations⟩) (h' : catalog.Describes ⟨id, annotations'⟩) :
    annotations' = annotations := by
  obtain ⟨symbol, hsymbol, hread⟩ := h
  obtain ⟨symbol', hsymbol', hread'⟩ := h'
  obtain rfl := Except.ok.inj (hsymbol.symm.trans hsymbol')
  exact (Except.ok.inj (hread.symm.trans hread')).symm

/-- The owner of a member of a union is the alias that the union lists it under, if there is one. -/
def OwnsMember (catalog : Catalog) (node : TypeNode) (owner : Option Owner) : Prop :=
  owner.map Owner.symbol = node.aliasSymbol ∧ ∀ o, owner = some o → catalog.Describes o

/-- Whoever the type of the request is built for is described by its annotations. -/
def Described (catalog : Catalog) (request : Request) : Prop :=
  ∀ owner, request.owner = some owner →
    catalog.Describes owner ∧ catalog.Owns owner.symbol request.type

/-- The requests that the rule for the structure of a subject can make. -/
inductive Asks (catalog : Catalog) (request : Request) (subject : Subject) : Request → Prop
  | member {members : List TypeId} {id : TypeId} {node : TypeNode} {owner : Option Owner}
      (hkind : subject.node.kind = .union members) (hmem : id ∈ members)
      (hnode : catalog.graph.lookupType id = .ok node) (howner : catalog.OwnsMember node owner) :
      Asks catalog request subject { catalog.member id node.aliasSymbol with owner := owner }
  | factor {members : List TypeId} {id : TypeId}
      (hkind : subject.node.kind = .intersection members) (hmem : id ∈ members) :
      Asks catalog request subject (catalog.member id)
  | element {elements : List TypeId} {minLength : Nat} {hasRest : Bool} {id : TypeId}
      (hkind : subject.node.kind = .tuple elements minLength hasRest) (hmem : id ∈ elements) :
      Asks catalog request subject (catalog.member id)
  | item {id : TypeId} (hindex : subject.node.numberIndex = some id) :
      Asks catalog request subject (catalog.member id)
  | value {id : TypeId} (hkind : subject.node.kind = .object [] true (some id)) :
      Asks catalog request subject
        { catalog.member id subject.named with
          unionKeyword := request.unionKeyword
          owner := request.owner }
  | property {property : Property} {annotations : Annotations}
      (hmem : property ∈ subject.node.properties)
      (howner : catalog.Describes ⟨property.symbol, annotations⟩) :
      Asks catalog request subject
        { catalog.member property.type property.referenced with
          owner := some ⟨property.symbol, annotations⟩ }
  | subtype {symbol : SymbolId} {base : Symbol} {printed name : String} {names : List String}
      {id : TypeId} (hsymbol : subject.node.symbol = some symbol)
      (hbase : catalog.graph.lookupSymbol symbol = .ok base) (habstract : base.isAbstract = true)
      (hprinted : catalog.graph.typeText subject.id = .ok printed)
      (hnames : Dict.get? catalog.subtypes printed = some names) (hmem : name ∈ names)
      (hdeclared : Dict.get? catalog.declared name = some id) :
      Asks catalog request subject (catalog.member id)

/-- Parts are built for what the catalog describes. -/
theorem Asks.described {catalog : Catalog} {request part : Request} {subject : Subject}
    (h : catalog.Asks request subject part)
    (hsubject : catalog.graph.unwrap (catalog.graph.types.size + 1) request.type request.named =
      .ok subject) (hrequest : catalog.Described request) : catalog.Described part := by
  have hnode := (TypeGraph.unwrap_subject hsubject).1
  cases h with
  | member hkind hmem hmember howner =>
    intro owner heq
    refine ⟨howner.2 owner heq, .member hnode hkind hmem hmember ?_⟩
    exact howner.1.symm.trans (congrArg (Option.map Owner.symbol) heq)
  | value hkind =>
    intro owner heq
    obtain ⟨hdescribes, howns⟩ := hrequest owner heq
    exact ⟨hdescribes, howns.value hsubject hkind⟩
  | property hmem howner =>
    intro owner heq
    cases heq
    exact ⟨howner, .property hnode hmem⟩
  | _ =>
    intro owner heq
    cases heq

end Catalog

end TypeSchema
