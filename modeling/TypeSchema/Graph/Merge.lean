import TypeSchema.Graph.Basic

/-!
# Merging graphs

Two graphs become one by placing the types and symbols of the second behind those of the first and
moving every position in it accordingly.  A name that both declare keeps its place and takes the
second graph's type.
-/

set_option autoImplicit false

namespace TypeSchema

/-- How far the positions of a graph are moved. -/
structure Shift where
  types : UInt32
  symbols : UInt32
deriving DecidableEq, Repr

namespace Shift

/-- Moves the position of a type. -/
def type (shift : Shift) (id : TypeId) : TypeId :=
  ⟨id.index + shift.types⟩

/-- Moves the position of a symbol. -/
def symbol (shift : Shift) (id : SymbolId) : SymbolId :=
  ⟨id.index + shift.symbols⟩

/-- Moves the positions in a property. -/
def property (shift : Shift) (p : Property) : Property :=
  { p with
    symbol := shift.symbol p.symbol
    type := shift.type p.type
    referenced := p.referenced.map shift.symbol }

/-- Moves the positions in a structure. -/
def kind (shift : Shift) : TypeKind → TypeKind
  | .union members => .union (members.map shift.type)
  | .intersection members => .intersection (members.map shift.type)
  | .tuple elements minLength hasRest => .tuple (elements.map shift.type) minLength hasRest
  | .object properties anonymous index =>
    .object (properties.map shift.property) anonymous (index.map shift.type)
  | other => other

/-- Moves the positions in a type. -/
def node (shift : Shift) (n : TypeNode) : TypeNode where
  kind := shift.kind n.kind
  symbol := n.symbol.map shift.symbol
  aliasSymbol := n.aliasSymbol.map shift.symbol
  aliasArguments := n.aliasArguments.map shift.type
  numberIndex := n.numberIndex.map shift.type
  baseTypes := n.baseTypes.map shift.type

end Shift

namespace TypeGraph

/-- How far the positions of a graph move that is placed behind this one. -/
def shift (graph : TypeGraph) : Shift where
  types := UInt32.ofNat graph.types.size
  symbols := UInt32.ofNat graph.symbols.size

/-- Both graphs as one, the types and symbols of `other` behind those of `graph`. -/
def merge (graph other : TypeGraph) : TypeGraph where
  types := graph.types ++ other.types.map graph.shift.node
  symbols := graph.symbols ++ other.symbols
  declarations := Dict.extend graph.declarations
    (other.declarations.map fun (name, id) => (name, graph.shift.type id))
  diagnostics := graph.diagnostics ++ other.diagnostics

end TypeGraph

end TypeSchema
