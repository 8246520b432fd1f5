import TypeSchema.Schema.Resolution

/-!
# Documents of definitions

`Catalog.schemas` builds one definition for every selected declaration and puts the definitions that
references point to after them.
-/

set_option autoImplicit false

namespace TypeSchema

/-- What building leaves: a result or an error, what was logged, and what was done, the latest
first. -/
structure Outcome (α : Type) where
  result : Except Error α
  log : List LogEntry := []
  journal : List Event := []

namespace BuildM

/-- Runs a construction in a fresh context. -/
def run {α : Type} (construction : BuildM α) (start : Context) : Outcome α :=
  let (result, progress) := StateT.run (ExceptT.run construction) { context := start }
  ⟨result, progress.log, progress.journal⟩

end BuildM

namespace Catalog

/-- Builds the definitions of selected declarations; one selected twice is built twice. -/
def definitions (catalog : Catalog) (selected : List (String × TypeId)) :
    BuildM (Dict Definition) :=
  selected.foldlM (fun done entry => do
    return Dict.insert done entry.1 (← catalog.build (catalog.member entry.2))) []

/-- The definitions of all selected declarations, then those that references point to; of two with
one name the latter counts. -/
def schemas (catalog : Catalog) (patterns : List NamePattern) : Outcome (Dict Definition) :=
  if patterns.isEmpty then { result := .ok [] }
  else BuildM.run (do
    let roots ← catalog.definitions (catalog.select patterns)
    return Dict.extend roots (← BuildM.context).reffed)
    (Context.start .definitions catalog.overrides)

/-- The document of definitions as JSON. -/
def schemasJson (definitions : Dict Definition) : Json :=
  .object [("definitions", .object (definitions.map fun entry => (entry.1, entry.2.toJson)))]

end Catalog

end TypeSchema
