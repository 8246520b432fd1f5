import TypeSchema.OpenApi.Format
import TypeSchema.OpenApi.Shape

/-!
# The document of selected shapes

`Catalog.openApi` puts the operations of all selected shapes at their paths.  Of two operations at
one path with one method the latter counts, which is logged.  Definitions that references point to
are added to the components, except where the caller has given a schema of the name.
-/

set_option autoImplicit false

namespace TypeSchema

open OpenApi

/-- Puts an operation at its path. -/
def OpenApi.Document.place (document : Document) (placed : Catalog.PlacedOperation) : Document :=
  let item := (Dict.get? document.paths placed.path).getD []
  { document with
    paths := Dict.insert document.paths placed.path
      (Dict.insert item placed.method.key placed.operation) }

/-- Whether the document has an operation at the path with the method. -/
def OpenApi.Document.hasOperation (document : Document) (path : String) (method : HttpMethod) :
    Bool :=
  Dict.contains ((Dict.get? document.paths path).getD []) method.key

/-- Adds schemas that the document does not have yet. -/
def OpenApi.Document.addSchemas (document : Document) (schemas : Dict Definition) : Document :=
  { document with
    components := { document.components with
      schemas := schemas.foldl (fun done entry => Dict.insertNew done entry.1 entry.2)
        document.components.schemas } }

namespace Catalog

/-- Adds the operation of a shape to the document. -/
def addShape (catalog : Catalog) (document : Document) (entry : String × TypeId) :
    BuildM Document := do
  match ← catalog.operation entry.1 entry.2 with
  | none => return document
  | some placed =>
    if document.hasOperation placed.path placed.method then
      BuildM.note (.operationReplaced entry.1 placed.method.name)
    return document.place placed

/-- The document of all selected shapes. -/
def openApi (catalog : Catalog) (patterns : List NamePattern) (metadata : Metadata) :
    Outcome Document :=
  let blank := Document.ofMetadata catalog.options.version metadata
  if patterns.isEmpty then { result := .ok blank }
  else BuildM.run (do
    let document ← (catalog.select patterns).foldlM catalog.addShape blank
    return document.addSchemas (← BuildM.context).reffed)
    (Context.start .components catalog.overrides)

end Catalog

end TypeSchema
