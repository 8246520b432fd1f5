import TypeSchema.Graph.Basic

/-!
# Graphs without dangling positions

A graph read from a file is checked before it is used: every type and symbol it refers to has to be
there.  `TypeGraph.validate` reports the first reference to something missing, type by type, and in
each type the references to types before those to symbols.
-/

set_option autoImplicit false

namespace TypeSchema

/-- Something a graph refers to and does not have. -/
inductive Missing
  | type (id : TypeId)
  | symbol (id : SymbolId)
deriving DecidableEq, Repr

/-- What refers to it. -/
inductive Referrer
  | type (index : Nat)
  | declaration (name : String)
deriving DecidableEq, Repr

/-- A dangling reference. -/
structure GraphFault where
  referrer : Referrer
  missing : Missing
deriving DecidableEq, Repr

/-- The referrer in words. -/
def Referrer.text : Referrer → String
  | .type index => "type #" ++ toString index
  | .declaration name => "declaration `" ++ name ++ "`"

/-- The missing thing in words. -/
def Missing.text : Missing → String
  | .type id => "missing type " ++ id.text
  | .symbol id => "missing symbol " ++ id.text

/-- The fault in words. -/
def GraphFault.message (fault : GraphFault) : String :=
  fault.referrer.text ++ " refers to " ++ fault.missing.text

/-- The types a structure refers to. -/
def TypeKind.typeRefs : TypeKind → List TypeId
  | .union members => members
  | .intersection members => members
  | .tuple elements _ _ => elements
  | .object properties _ index => properties.map Property.type ++ index.toList
  | _ => []

/-- The symbols a structure refers to. -/
def TypeKind.symbolRefs : TypeKind → List SymbolId
  | .object properties _ _ => properties.flatMap fun p => p.symbol :: p.referenced.toList
  | _ => []

/-- The types a type refers to. -/
def TypeNode.typeRefs (node : TypeNode) : List TypeId :=
  node.aliasArguments ++ node.numberIndex.toList ++ node.baseTypes ++ node.kind.typeRefs

/-- The symbols a type refers to. -/
def TypeNode.symbolRefs (node : TypeNode) : List SymbolId :=
  node.symbol.toList ++ node.aliasSymbol.toList ++ node.kind.symbolRefs

namespace TypeGraph

/-- The first reference of a type to something missing. -/
def nodeMissing? (graph : TypeGraph) (node : TypeNode) : Option Missing :=
  ((node.typeRefs.find? fun id => (graph.type? id).isNone).map Missing.type).or
    ((node.symbolRefs.find? fun id => (graph.symbol? id).isNone).map Missing.symbol)

/-- The first dangling reference of the types from position `index` on. -/
def nodesFault? (graph : TypeGraph) : Nat → List TypeNode → Option GraphFault
  | _, [] => none
  | index, node :: rest =>
    match graph.nodeMissing? node with
    | some missing => some ⟨.type index, missing⟩
    | none => nodesFault? graph (index + 1) rest

/-- The first declaration of a missing type. -/
def declarationsFault? (graph : TypeGraph) : Dict TypeId → Option GraphFault
  | [] => none
  | (name, id) :: rest =>
    if (graph.type? id).isNone then some ⟨.declaration name, .type id⟩
    else declarationsFault? graph rest

/-- The first dangling reference of the graph. -/
def fault? (graph : TypeGraph) : Option GraphFault :=
  (graph.nodesFault? 0 graph.types.toList).or (graph.declarationsFault? graph.declarations)

/-- Accepts a graph without dangling references. -/
def validate (graph : TypeGraph) : Except GraphFault Unit :=
  match graph.fault? with
  | some fault => .error fault
  | none => .ok ()

end TypeGraph

end TypeSchema
