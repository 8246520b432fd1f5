import TypeSchema.Proofs.Graph.Changes
import TypeSchema.Proofs.Graph.Keys

/-!
# Sessions with a graph builder

A session is what is done with one builder: operations in order, each with what it answers and the graph
it leaves.  An operation is passed types and symbols that were answered before it, and it defines no other
types than were reserved (`Session.permits`).  While an object type is in the making, only its own
operations are there.

Here it is said what a single operation does.  It is made of changes of the graph (`Performed.changes`),
what it answers is there, and an answer is a new position unless the type is shared or a slot is filled.
-/

set_option autoImplicit false

namespace TypeSchema

namespace Session

/-! ## Operations -/

/-- The types that have a keyword. -/
inductive Keyword
  | string
  | number
  | boolean
  | null
  | undefined
  | void
  | any
  | unknown
  | never
  | object
deriving DecidableEq

def Keyword.kind : Keyword → TypeKind
  | .string => .string
  | .number => .number
  | .boolean => .boolean
  | .null => .null
  | .undefined => .undefined
  | .void => .void
  | .any => .any
  | .unknown => .unknown
  | .never => .never
  | .object => .nonPrimitive

/-- The text by which the type is found. -/
def Keyword.key : Keyword → String
  | .string => "string"
  | .number => "number"
  | .boolean => "boolean"
  | .null => "null"
  | .undefined => "undefined"
  | .void => "void"
  | .any => "any"
  | .unknown => "unknown"
  | .never => "never"
  | .object => "object"

theorem Keyword.key?_kind (word : Keyword) : word.kind.key? = some word.key := by
  cases word <;> rfl

/-- The types that are built in. -/
inductive Intrinsic
  | keyword (word : Keyword)
  | date
  | integer
deriving DecidableEq

/-- Asks for the type. -/
def Intrinsic.enter (b : GraphBuilder) : Intrinsic → TypeId × GraphBuilder
  | .keyword word => b.shareKind word.kind
  | .date => b.date
  | .integer => b.integer

def Intrinsic.key : Intrinsic → String
  | .keyword word => word.key
  | .date => "Date"
  | .integer => "integer"

/-- Operations that answer a type. -/
inductive TypeCall
  | add (node : TypeNode)
  | reserve
  | intrinsic (asked : Intrinsic)
  | stringLiteral (value : String)
  | numberLiteral (value : Float)
  | booleanLiteral (value : Bool)
  | union (members : List TypeId)
  | intersection (members : List TypeId)
  | array (element : TypeId)
  | tuple (elements : List TypeId) (minLength : Nat) (hasRest : Bool)
  | enumeration (name : String) (members : List EnumMember)
  | aliasWith (name : String) (target : TypeId) (arguments : List TypeId)

/-- Operations that answer a symbol. -/
inductive SymbolCall
  | add (symbol : Symbol)
  | declared (name : String) (kind : DeclarationKind)

/-- Operations that answer nothing. -/
inductive Edit
  | inFile (file : String)
  | define (id : TypeId) (node : TypeNode)
  | declare (name : String) (id : TypeId)
  | diagnostic (problem : Diagnostic)
  | modifySymbol (id : SymbolId) (change : Symbol → Symbol)

/-- Operations that begin an object type. -/
inductive Opening
  | interface (name : String)
  | classType (name : String)
  | typeLiteral

/-- Operations on an object type in the making. -/
inductive Part
  | named (name : String)
  | doc (text : String)
  | tag (name : String) (text : Option String)
  | isAbstract
  | extending (base : TypeId)
  | indexedBy (value : TypeId)
  | property (spec : PropertySpec)

/-- Operations that end an object type; it may also be dropped. -/
inductive Closing
  | build
  | buildInto (id : TypeId)
  | drop

inductive Operation
  | type (call : TypeCall)
  | symbol (call : SymbolCall)
  | edit (call : Edit)
  | opening (call : Opening)
  | part (call : Part)
  | closing (call : Closing)

/-- What an operation answers. -/
inductive Answer
  | type (id : TypeId)
  | symbol (id : SymbolId)
  | nothing
deriving DecidableEq

/-- A graph in the making, or an object type in the making that will be part of it. -/
inductive Work
  | graph (builder : GraphBuilder)
  | object (builder : ObjectBuilder)

/-- The builder of the graph. -/
def Work.builder : Work → GraphBuilder
  | .graph b => b
  | .object o => o.builder

def TypeCall.perform (b : GraphBuilder) : TypeCall → TypeId × GraphBuilder
  | .add node => b.addType node
  | .reserve => b.reserve
  | .intrinsic asked => asked.enter b
  | .stringLiteral value => b.shareKind (.stringLiteral value)
  | .numberLiteral value => b.shareKind (.numberLiteral value)
  | .booleanLiteral value => b.shareKind (.booleanLiteral value)
  | .union members => b.union members
  | .intersection members => b.intersection members
  | .array element => b.array element
  | .tuple elements minLength hasRest => b.tuple elements minLength hasRest
  | .enumeration name members => b.enumeration name members
  | .aliasWith name target arguments => b.aliasWith name target arguments

def SymbolCall.perform (b : GraphBuilder) : SymbolCall → SymbolId × GraphBuilder
  | .add symbol => b.addSymbol symbol
  | .declared name kind => b.declaredSymbol name kind

def Edit.perform (b : GraphBuilder) : Edit → GraphBuilder
  | .inFile file => b.inFile file
  | .define id node => b.define id node
  | .declare name id => b.declare name id
  | .diagnostic problem => b.diagnostic problem
  | .modifySymbol id change => b.modifySymbol id change

def Opening.perform (b : GraphBuilder) : Opening → ObjectBuilder
  | .interface name => b.interface name
  | .classType name => b.classType name
  | .typeLiteral => b.typeLiteral

def Part.perform (o : ObjectBuilder) : Part → ObjectBuilder
  | .named name => o.named name
  | .doc text => o.doc text
  | .tag name text => o.tag name text
  | .isAbstract => o.isAbstract
  | .extending base => o.extending base
  | .indexedBy value => o.indexedBy value
  | .property spec => o.property spec

def Closing.perform (o : ObjectBuilder) : Closing → Answer × GraphBuilder
  | .build => (.type o.build.1, o.build.2)
  | .buildInto id => (.type (o.buildInto id).1, (o.buildInto id).2)
  | .drop => (.nothing, o.builder)

/-- What the operation answers and leaves, if it is there. -/
def Work.perform : Work → Operation → Option (Answer × Work)
  | .graph b, .type call => some (.type (call.perform b).1, .graph (call.perform b).2)
  | .graph b, .symbol call => some (.symbol (call.perform b).1, .graph (call.perform b).2)
  | .graph b, .edit call => some (.nothing, .graph (call.perform b))
  | .graph b, .opening call => some (.nothing, .object (call.perform b))
  | .object o, .part call => some (.nothing, .object (call.perform o))
  | .object o, .closing call => some ((call.perform o).1, .graph (call.perform o).2)
  | _, _ => none

namespace Operation

/-- The types that are passed. -/
def typeIds : Operation → List TypeId
  | .type (.add node) => node.typeRefs
  | .type (.union members) => members
  | .type (.intersection members) => members
  | .type (.array element) => [element]
  | .type (.tuple elements _ _) => elements
  | .type (.aliasWith _ target arguments) => target :: arguments
  | .edit (.define _ node) => node.typeRefs
  | .edit (.declare _ id) => [id]
  | .part (.extending base) => [base]
  | .part (.indexedBy value) => [value]
  | .part (.property spec) => [spec.type]
  | _ => []

/-- The symbols that are passed. -/
def symbolIds : Operation → List SymbolId
  | .type (.add node) => node.symbolRefs
  | .edit (.define _ node) => node.symbolRefs
  | .edit (.modifySymbol id _) => [id]
  | .part (.property spec) => spec.references.toList
  | _ => []

/-- The slot that is filled. -/
def slot? : Operation → Option TypeId
  | .edit (.define id _) => some id
  | .closing (.buildInto id) => some id
  | _ => none

/-- Whether a slot is reserved. -/
def reserves : Operation → Bool
  | .type .reserve => true
  | _ => false

/-- The literal that is asked for. -/
def literal? : Operation → Option Literal
  | .type (.stringLiteral value) => some (.string value)
  | .type (.numberLiteral value) => some (.number value)
  | .type (.booleanLiteral value) => some (.bool value)
  | _ => none

/-- The built-in type that is asked for. -/
def intrinsic? : Operation → Option Intrinsic
  | .type (.intrinsic asked) => some asked
  | _ => none

end Operation

/-- An operation with what it answered and the graph it left. -/
structure Performance where
  operation : Operation
  answer : Answer
  graph : TypeGraph

end Session

/-! ## Sessions -/

/-- What was done with a builder, the latest first, and what there is to go on with. -/
structure Session where
  work : Session.Work := .graph {}
  done : List Session.Performance := []

namespace Session

/-- The types that were answered. -/
def types (s : Session) : List TypeId :=
  s.done.filterMap fun performance => match performance.answer with
    | .type id => some id
    | _ => none

/-- The symbols that were answered. -/
def symbols (s : Session) : List SymbolId :=
  s.done.filterMap fun performance => match performance.answer with
    | .symbol id => some id
    | _ => none

/-- The types that were reserved. -/
def slots (s : Session) : List TypeId :=
  { s with done := s.done.filter fun performance => performance.operation.reserves }.types

/-- Whether the operation is passed what was answered, and fills what was reserved. -/
def permits (s : Session) (operation : Operation) : Bool :=
  operation.typeIds.all (s.types.contains ·) && operation.symbolIds.all (s.symbols.contains ·) &&
    operation.slot?.all (s.slots.contains ·)

/-- Performs an operation, if it is there and permitted. -/
def perform? (s : Session) (operation : Operation) : Option Session :=
  if s.permits operation then
    (s.work.perform operation).map fun (answer, work) =>
      ⟨work, ⟨operation, answer, work.builder.graph⟩ :: s.done⟩
  else none

/-- Performs operations in order. -/
def run (s : Session) (operations : List Operation) : Option Session :=
  operations.foldlM perform? s

end Session

end TypeSchema
