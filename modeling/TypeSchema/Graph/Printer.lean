import TypeSchema.Graph.Validity
import TypeSchema.Number.Text

/-!
# Types as text

A type is printed by its name if it has one and by its structure otherwise.  Graphs are cyclic, so
the text is cut off with `...` below a fixed number of levels.
-/

set_option autoImplicit false

namespace TypeSchema.TypeGraph

/-- The number of levels a printed type shows. -/
def printedLevels : Nat := 9

/-- Puts a separator between texts. -/
def joined (sep : String) (texts : List String) : String :=
  String.intercalate sep texts

/-- Whether an element type is put into parentheses: a union or intersection without a name. -/
def isComposite (node : TypeNode) : Bool :=
  match node.kind with
  | .union _ | .intersection _ => node.aliasSymbol.isNone
  | _ => false

/-- The type at the position, or the fault that it is missing. -/
def lookupType (graph : TypeGraph) (id : TypeId) : Except Missing TypeNode :=
  match graph.type? id with
  | some node => .ok node
  | none => .error (.type id)

/-- The symbol at the position, or the fault that it is missing. -/
def lookupSymbol (graph : TypeGraph) (id : SymbolId) : Except Missing Symbol :=
  match graph.symbol? id with
  | some symbol => .ok symbol
  | none => .error (.symbol id)

section Lookups

variable {graph : TypeGraph}

theorem lookupType_eq_ok_iff {id : TypeId} {node : TypeNode} :
    graph.lookupType id = .ok node ↔ graph.types[id.index.toNat]? = some node := by
  rw [lookupType, type?]
  cases graph.types[id.index.toNat]? <;> simp

theorem lookupSymbol_eq_ok_iff {id : SymbolId} {symbol : Symbol} :
    graph.lookupSymbol id = .ok symbol ↔ graph.symbols[id.index.toNat]? = some symbol := by
  rw [lookupSymbol, symbol?]
  cases graph.symbols[id.index.toNat]? <;> simp

theorem mem_types {id : TypeId} {node : TypeNode} (h : graph.lookupType id = .ok node) :
    node ∈ graph.types.toList :=
  Array.mem_toList_iff.2 (Array.mem_of_getElem? (lookupType_eq_ok_iff.1 h))

theorem mem_symbols {id : SymbolId} {symbol : Symbol} (h : graph.lookupSymbol id = .ok symbol) :
    symbol ∈ graph.symbols.toList :=
  Array.mem_toList_iff.2 (Array.mem_of_getElem? (lookupSymbol_eq_ok_iff.1 h))

end Lookups

/-- The text of a keyword type or a literal type. -/
def simpleText? : TypeKind → Option String
  | .string => some "string"
  | .number => some "number"
  | .boolean => some "boolean"
  | .null => some "null"
  | .undefined => some "undefined"
  | .void => some "void"
  | .any => some "any"
  | .unknown => some "unknown"
  | .never => some "never"
  | .nonPrimitive => some "object"
  | .stringLiteral value => some ("\"" ++ value ++ "\"")
  | .numberLiteral value => some (Double.typeText value)
  | .booleanLiteral value => some (if value then "true" else "false")
  | .enumLiteral value => some value
  | .enum _ => some "enum"
  | .typeParameter => some "T"
  | .union _ | .intersection _ | .tuple _ _ _ | .object _ _ _ => none

/-- The text of a property, after a blank. -/
def propertyText (graph : TypeGraph) (child : TypeId → Except Missing String) (p : Property) :
    Except Missing String := do
  let symbol ← graph.lookupSymbol p.symbol
  let text ← child p.type
  return " " ++ symbol.name ++ (if p.isOptional then "?" else "") ++ ": " ++ text ++ ";"

/-- The text of a type without a name; `child` prints the types it is made of. -/
def structureText (graph : TypeGraph) (child : TypeId → Except Missing String) (node : TypeNode) :
    Except Missing String :=
  match node.kind with
  | .union members => return joined " | " (← members.mapM child)
  | .intersection members => return joined " & " (← members.mapM child)
  | .tuple elements _ _ => return "[" ++ joined ", " (← elements.mapM child) ++ "]"
  | .object properties _ index =>
    match node.numberIndex with
    | some element => do
      let elementNode ← graph.lookupType element
      let text ← child element
      return if isComposite elementNode then "(" ++ text ++ ")[]" else text ++ "[]"
    | none =>
      if properties.isEmpty && index.isNone then return "\x7b\x7d"
      else do
        let indexText ← match index with
          | some value => pure (" [x: string]: " ++ (← child value) ++ ";")
          | none => pure ""
        let texts ← properties.mapM (propertyText graph child)
        return "\x7b" ++ indexText ++ joined "" texts ++ " \x7d"
  | kind => return (simpleText? kind).getD ""

/-- The text of a type; `child` prints the types it is made of. -/
def nodeText (graph : TypeGraph) (child : TypeId → Except Missing String) (node : TypeNode) :
    Except Missing String :=
  match node.aliasSymbol with
  | some aliasSymbol => do
    let symbol ← graph.lookupSymbol aliasSymbol
    if node.aliasArguments.isEmpty then return symbol.fullName
    else return symbol.fullName ++ "<" ++ joined ", " (← node.aliasArguments.mapM child) ++ ">"
  | none =>
    match if node.isAnonymousObject then none else node.symbol with
    | some own => return (← graph.lookupSymbol own).fullName
    | none => structureText graph child node

/-- The text of a type down to the given number of levels. -/
def print (graph : TypeGraph) : Nat → TypeId → Except Missing String
  | 0, _ => return "..."
  | levels + 1, id => do nodeText graph (print graph levels) (← graph.lookupType id)

/-- The text of a type. -/
def typeText (graph : TypeGraph) (id : TypeId) : Except Missing String :=
  graph.print printedLevels id

end TypeSchema.TypeGraph
