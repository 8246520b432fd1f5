import TypeSchema.Graph.Printer
import TypeSchema.Pattern.NamePattern
import TypeSchema.Schema.Context

/-!
# Catalogs

A catalog is a graph made ready for use: its declarations under the names by which patterns select
them, and for every base type the declarations that extend it.  Everything a call needs beside its
own context is in the catalog, and no call changes it.
-/

set_option autoImplicit false

namespace TypeSchema

/-- A graph ready to have schemas built from it. -/
structure Catalog where
  graph : TypeGraph
  options : Options := {}
  modules : Modules := Modules.none
  /-- The declared types by name; under unique names the name carries a hash. -/
  declared : Dict TypeId := []
  /-- The names of the declarations that extend a type, by its printed form. -/
  subtypes : Dict (List String) := []
  /-- Definitions that are given and not built. -/
  overrides : Dict Definition := []
  /-- Applied to every definition that is built. -/
  hook : Definition → Definition := id

namespace TypeGraph

/-- The symbol whose declaration names the type. -/
def declaringSymbol (graph : TypeGraph) (node : TypeNode) : Except Missing (Option Symbol) :=
  match node.namingSymbol with
  | some id => do return some (← graph.lookupSymbol id)
  | none => return none

end TypeGraph

namespace Catalog

/-- The name a declaration is selected by. -/
def declaredName (options : Options) (name : String) (symbol : Option Symbol) : String :=
  match if options.uniqueNames then symbol.bind Symbol.declaration else none with
  | some declaration => name ++ "." ++ declaration.hash
  | none => name

/-- Notes that the declaration with the name extends the type with the printed form. -/
def addSubtype (subtypes : Dict (List String)) (printed name : String) : Dict (List String) :=
  Dict.insert subtypes printed ((Dict.get? subtypes printed).getD [] ++ [name])

/-- Enters one declaration. -/
def addDeclaration (catalog : Catalog) (entry : String × TypeId) : Except Missing Catalog := do
  let node ← catalog.graph.lookupType entry.2
  let symbol ← catalog.graph.declaringSymbol node
  let name := declaredName catalog.options entry.1 symbol
  let bases ← node.baseTypes.mapM catalog.graph.typeText
  return { catalog with
    declared := Dict.insert catalog.declared name entry.2
    subtypes := bases.foldl (fun subtypes printed => addSubtype subtypes printed name)
      catalog.subtypes }

/-- The catalog of a graph.  A graph that reports problems is refused unless they are to be
ignored. -/
def ofGraph (graph : TypeGraph) (options : Options) (modules : Modules) : Except Error Catalog :=
  if !options.ignoreErrors && !graph.diagnostics.isEmpty then
    .error (.diagnostics graph.diagnostics)
  else
    (graph.declarations.foldlM addDeclaration { graph, options, modules }).mapError Error.missing

/-- What is logged when a catalog is refused: each problem by itself. -/
def refusalLog : Error → List LogEntry
  | .diagnostics reports => reports.map fun report => .diagnostic report.text
  | _ => []

/-- The catalog with a definition that is given under a name. -/
def override (catalog : Catalog) (name : String) (definition : Definition) : Catalog :=
  { catalog with overrides := Dict.insert catalog.overrides name definition }

/-- The declarations that patterns select, pattern by pattern, each in the order of declaration; all
of them if there is no pattern. -/
def select (catalog : Catalog) (patterns : List NamePattern) : List (String × TypeId) :=
  if patterns.isEmpty then catalog.declared
  else patterns.flatMap fun pattern =>
    catalog.declared.filter fun entry => pattern.selects entry.1

/-- How doc comments are read. -/
def reader (catalog : Catalog) : AnnotationReader :=
  ⟨catalog.options.keywords, catalog.modules⟩

end Catalog

end TypeSchema
