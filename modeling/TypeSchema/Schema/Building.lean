import TypeSchema.Schema.Catalog
import TypeSchema.Schema.Journal

/-!
# Building schemas

The vocabulary that the rules for the different kinds of types share.  A rule asks for the schemas of
the types it is made of through a `Builder`; how that request is answered is decided in
`TypeSchema.Schema.Resolution`, where the rules are tied together.
-/

set_option autoImplicit false

namespace TypeSchema

/-- The context of a call, what was logged in it, and what it did so far, the latest first. -/
structure Progress where
  context : Context
  log : List LogEntry := []
  journal : List Event := []

/-- The progress after an event. -/
def Progress.act (progress : Progress) (event : Event) : Progress :=
  { progress with
    context := event.effect progress.context
    journal := event :: progress.journal }

/-- Building may fail; what was logged before stays. -/
abbrev BuildM := ExceptT Error (StateM Progress)

/-- What a type is built for: a property, or the alias under which a union lists it, with the
annotations of its symbol. -/
structure Owner where
  symbol : SymbolId
  annotations : Annotations

/-- A request for the schema of a type. -/
structure Request where
  type : TypeId
  /-- Whether the schema is to be a reference if it can be. -/
  asReference : Bool
  /-- The keyword for the branches of a union. -/
  unionKeyword : UnionKeyword
  owner : Option Owner := none
  /-- The symbol the type was asked for by. -/
  named : Option SymbolId := none
  /-- The constructions it is asked for in, the innermost first. -/
  above : List Frame := []

/-- Answers requests. -/
abbrev Builder := Request → BuildM Definition

namespace BuildM

/-- The context of the call. -/
def context : BuildM Context := do
  return (← get).context

/-- Lets an event happen. -/
def act (event : Event) : BuildM Unit :=
  modify fun progress => progress.act event

/-- Changes the context and answers. -/
def answer {α : Type} (update : Context → α × Context) : BuildM α :=
  modifyGet fun progress =>
    let (answer, context) := update progress.context
    (answer, { progress with context })

/-- Logs an event. -/
def note (entry : LogEntry) : BuildM Unit :=
  modify fun progress => { progress with log := progress.log ++ [entry] }

/-- Goes on with what was found in the graph. -/
def find {α : Type} (found : Except Missing α) : BuildM α :=
  match found with
  | .ok value => pure value
  | .error missing => throw (.missing missing)

/-- Goes on with a result. -/
def take {α : Type} (result : Except Error α) : BuildM α :=
  match result with
  | .ok value => pure value
  | .error error => throw error

end BuildM

namespace Catalog

/-- The type at the position. -/
def type (catalog : Catalog) (id : TypeId) : BuildM TypeNode :=
  BuildM.find (catalog.graph.lookupType id)

/-- The symbol at the position. -/
def symbol (catalog : Catalog) (id : SymbolId) : BuildM Symbol :=
  BuildM.find (catalog.graph.lookupSymbol id)

/-- The printed form of a type. -/
def printed (catalog : Catalog) (id : TypeId) : BuildM String :=
  BuildM.find (catalog.graph.typeText id)

/-- The annotations of a symbol. -/
def annotations (catalog : Catalog) (id : SymbolId) : BuildM Annotations := do
  BuildM.take (catalog.reader.read (← catalog.symbol id))

/-- The request for a part of a type that no property owns. -/
def member (catalog : Catalog) (id : TypeId) (named : Option SymbolId := none) : Request :=
  { type := id
    asReference := catalog.options.reference
    unionKeyword := catalog.options.unionKeyword
    named }

end Catalog

end TypeSchema
