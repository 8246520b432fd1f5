import TypeSchema.Graph.Basic
import TypeSchema.Schema.Context

/-!
# The journal of a call

What a call does to its context beyond handing out names is written down event by event: where a rule
is applied, a reference made, a definition promoted or completed, a member dropped, an object listed.
The effect of an event on the context is a function of the event, and nothing that is built depends on
the journal.  It is there for what is said of whole calls: *every* reference a call makes, or *every*
object it describes, is every one its journal names.
-/

set_option autoImplicit false

namespace TypeSchema

/-! ## Constructions under way -/

/-- A type whose schema is built: after wrappers have been looked through. -/
structure Subject where
  id : TypeId
  node : TypeNode
  named : Option SymbolId

/-- Where the name of a definition comes from. -/
inductive NameSource
  /-- The registry alone. -/
  | registry
  /-- The registry, and the hash of the declaration that names the type. -/
  | declaration
  /-- The alias that a union of string literals is referred to by, and the hash of its
  declaration; the registry has no part in it. -/
  | aliasDeclaration
  /-- The symbol the type was asked for by, which has an override. -/
  | override
deriving DecidableEq, Repr

/-- A name, and where it comes from. -/
structure SourcedName where
  text : String
  source : NameSource

/-- How a request is answered: by a definition or by a reference to it, and under which name. -/
structure Plan where
  name : String
  source : NameSource
  isRaw : Bool
  isReference : Bool
  /-- What ends the construction, if it was taken up here. -/
  token : Option Nat

/-- A construction under way. -/
structure Frame where
  subject : Subject
  plan : Plan

namespace Subject

/-- Whether the construction of the subject is guarded by its name: not if it is raw and has no alias
to be known by. -/
def isGuarded (subject : Subject) (isRaw : Bool) : Bool :=
  !isRaw || subject.node.aliasSymbol.isSome

end Subject

namespace Frame

/-- Whether the construction is guarded by its name. -/
def isGuarded (frame : Frame) : Bool :=
  frame.subject.isGuarded frame.plan.isRaw

end Frame

/-! ## Objects -/

/-- A property that takes part in the schema of its object. -/
structure KeptProperty where
  property : Property
  name : String
  schema : Definition

/-- How an object was described: what its annotations gave to start with, the properties that were
kept, and the schema in the end. -/
structure Listing where
  id : TypeId
  start : Definition
  kept : List KeptProperty
  schema : Definition

/-! ## Events -/

/-- What a call does. -/
inductive Event
  /-- The rule for the structure of the first frame is applied, within the constructions after it. -/
  | applied (chain : List Frame)
  /-- A reference is made to the definition that the frame is named by. -/
  | referred (frame : Frame)
  /-- The frame's definition becomes one that references point to; its place is taken. -/
  | promoted (frame : Frame)
  /-- The definition of the frame is complete and put in its place. -/
  | completed (frame : Frame) (definition : Definition)
  /-- A union built for the owner leaves out a member that is `undefined`. -/
  | dropped (owner : SymbolId)
  /-- An object is described by its properties. -/
  | listed (listing : Listing)

/-- What an event does to the context. -/
def Event.effect : Event → Context → Context
  | .promoted frame, context => context.promote frame.plan.name Definition.empty
  | .completed frame definition, context => context.promote frame.plan.name definition
  | .dropped owner, context => context.markAbsent owner
  | .applied _, context => context
  | .referred _, context => context
  | .listed _, context => context

end TypeSchema
