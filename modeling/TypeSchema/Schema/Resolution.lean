import TypeSchema.Schema.Intersection
import TypeSchema.Schema.Object
import TypeSchema.Schema.Plain
import TypeSchema.Schema.Union

/-!
# The schema of a type

A request for the schema of a type is answered in steps.  Wrappers that only concern mutability are
looked through; annotations of the owner may settle the matter; else the type is given its name, and
the name decides: a name whose definition is under construction is answered by a reference, which is
what ends the way around a cycle.  Then the annotations of the type's symbols are read and the rule
for its structure is applied, unless a definition of that name is known already.

The rules ask for the schemas of parts through the same function, so the whole is a recursion along
the graph.  It ends because on every cycle some name is under construction when it is met again.  The
recursion carries a bound on its depth: `Catalog.depthBound` is computed from the size of the graph
and covers every graph in which each cycle leads through a type with a name of its own.
-/

set_option autoImplicit false

namespace TypeSchema

/-! ## Looking through wrappers -/

/-- The aliases that only concern mutability. -/
def mutabilityWrappers : List String :=
  ["Readonly", "Mutable"]

namespace TypeGraph

/-- The type inside a wrapper. -/
def wrapped? (graph : TypeGraph) (node : TypeNode) : Except Missing (Option TypeId) :=
  match node.aliasSymbol, node.aliasArguments with
  | some aliasSymbol, inner :: _ => do
    let symbol ← graph.lookupSymbol aliasSymbol
    return if mutabilityWrappers.contains symbol.name then some inner else none
  | _, _ => return none

/-- Looks through wrappers, as many as the first number says.  What a wrapper holds is no longer what
the symbol names. -/
def unwrap (graph : TypeGraph) : Nat → TypeId → Option SymbolId → Except Error Subject
  | 0, id, _ => .error (.endlessType id)
  | levels + 1, id, named => do
    let node ← (graph.lookupType id).mapError Error.missing
    match ← (graph.wrapped? node).mapError Error.missing with
    | some inner => unwrap graph levels inner none
    | none => return ⟨id, node, named⟩

/-! ## Kinds of subjects -/

/-- Whether the symbol marks a type that is described in a way of its own: dates and integers. -/
def isBranded (graph : TypeGraph) (id : SymbolId) : Except Missing Bool := do
  let symbol ← graph.lookupSymbol id
  return symbol.fullName == "Date" || symbol.name == "integer"

/-- Whether the type never becomes a reference by itself: keyword types, literals, tuples, arrays,
dates and integers. -/
def isRaw (graph : TypeGraph) (node : TypeNode) : Except Missing Bool :=
  match node.kind, node.symbol with
  | .enum _, _ => return false
  | .object _ _ _, symbol =>
    if node.numberIndex.isSome then return true
    else match symbol with
      | some id => graph.isBranded id
      | none => return false
  | _, some id => graph.isBranded id
  | _, none => return true

/-- Whether the type is a union of string literals only. -/
def isStringUnion (graph : TypeGraph) (node : TypeNode) : Except Missing Bool :=
  match node.kind with
  | .union members => do
    let nodes ← members.mapM graph.lookupType
    return nodes.all fun member => match member.kind with
      | .stringLiteral _ => true
      | _ => false
  | _ => return false

end TypeGraph

/-- Whether the type is an enum. -/
def TypeNode.isEnum (node : TypeNode) : Bool :=
  match node.kind with
  | .enum _ => true
  | _ => false

namespace Subject

/-- Whether an enum was asked for by its name; it stays where it is used. -/
def isEnumReference (subject : Subject) : Bool :=
  subject.named.isSome && subject.node.isEnum

/-- The symbols whose annotations describe the subject. -/
def describing (subject : Subject) : List SymbolId :=
  subject.named.toList ++ subject.node.symbol.toList ++ subject.node.aliasSymbol.toList

end Subject

/-! ## Naming the subject -/

namespace Catalog

/-- The name of a type made from its printed form. -/
def ownName (catalog : Catalog) (id : TypeId) : BuildM String := do
  match (← BuildM.context).names.name? id with
  | some name => return name
  | none =>
    let base := canonicalName (← catalog.printed id)
    BuildM.answer fun context =>
      let (name, names) := context.names.nameOf id base
      (name, { context with names })

/-- The name of a union of string literals that is referred to by an alias. -/
def aliasName (catalog : Catalog) (id : TypeId) (symbol : Symbol) : BuildM SourcedName :=
  let base := canonicalName symbol.fullName
  match if catalog.options.uniqueNames then symbol.declaration else none with
  | some declaration => return ⟨base ++ "." ++ declaration.hash, .aliasDeclaration⟩
  | none => BuildM.answer fun context =>
      let (name, names) := context.names.makeUnique id base
      (⟨name, .registry⟩, { context with names })

/-- The name of an override that the symbol has. -/
def overrideName? (catalog : Catalog) (named : Option SymbolId) : BuildM (Option String) :=
  match named with
  | none => return none
  | some id => do
    let name := (← catalog.symbol id).name
    return if Dict.contains catalog.overrides name then some name else none

/-- The name of the subject's definition. -/
def subjectName (catalog : Catalog) (subject : Subject) (aliasReference : Bool) :
    BuildM SourcedName := do
  match if aliasReference then subject.named else none with
  | some id => catalog.aliasName subject.id (← catalog.symbol id)
  | none =>
    let declaring ← BuildM.find (catalog.graph.declaringSymbol subject.node)
    match if catalog.options.uniqueNames then declaring.bind Symbol.declaration else none with
    | some declaration =>
      return ⟨(← catalog.ownName subject.id) ++ "." ++ declaration.hash, .declaration⟩
    | none =>
      match ← catalog.overrideName? subject.named with
      | some name => return ⟨name, .override⟩
      | none => return ⟨← catalog.ownName subject.id, .registry⟩

/-! ## How the subject is answered -/

/-- Whether the name becomes a reference wherever it can: not for type literals, types with
arguments, enums asked for by name, and names that no reference can hold. -/
def isPromoted (catalog : Catalog) (subject : Subject) (name : String) : BuildM Bool := do
  let ofLiteral ← match subject.named with
    | some id => do pure ((← catalog.symbol id).name == typeLiteralName)
    | none => pure false
  return catalog.options.reference && !ofLiteral && subject.node.aliasArguments.isEmpty &&
    !subject.isEnumReference && isReferenceName name

/-- Takes up the construction of the subject, unless it is under construction. -/
def takeUp (catalog : Catalog) (subject : Subject) (name : SourcedName) (isRaw asReference : Bool) :
    BuildM Plan := do
  if !subject.isGuarded isRaw then
    return ⟨name.text, name.source, isRaw, asReference, none⟩
  else if (← BuildM.context).isBuilding name.text then
    return ⟨name.text, name.source, isRaw, true, none⟩
  else
    let token ← BuildM.answer fun context => context.enter name.text
    let promoted ← catalog.isPromoted subject name.text
    return ⟨name.text, name.source, isRaw, asReference || promoted, some token⟩

/-- Settles how a request for the subject is answered. -/
def plan (catalog : Catalog) (subject : Subject) (asReference : Bool) : BuildM Plan := do
  let isRaw ← BuildM.find (catalog.graph.isRaw subject.node)
  let isStringUnion ← BuildM.find (catalog.graph.isStringUnion subject.node)
  let wished := asReference && !subject.isEnumReference
  let aliasReference := wished && isStringUnion && subject.named.isSome
  let isInline := !aliasReference && (isRaw || subject.node.isAnonymousObject)
  let asReference := wished && !isInline && subject.node.aliasArguments.isEmpty
  let name ← catalog.subjectName subject aliasReference
  catalog.takeUp subject name isRaw asReference

/-- Enters the annotations of the symbols. -/
def annotate (catalog : Catalog) (symbols : List SymbolId) : BuildM Definition := do
  let annotations ← symbols.foldlM (fun annotations id => do
    BuildM.take (catalog.reader.extend annotations (← catalog.symbol id))) {}
  return annotations.definition

/-- Enters the schema of an object literal type without properties. -/
def emptyObjectSchema (catalog : Catalog) (build : Builder) (request : Request)
    (named : Option SymbolId) (index : Option TypeId) (definition : Definition) :
    BuildM Definition := do
  let typed := (definition.setType "object").insert "properties" (.object [])
  match index with
  | none => return typed
  | some value =>
    let schema ← build { catalog.member value named with
      unionKeyword := request.unionKeyword
      owner := request.owner }
    return typed.insert "additionalProperties" schema.toJson

/-- Applies the rule for the structure of the subject. -/
def structureSchema (catalog : Catalog) (build : Builder) (request : Request) (subject : Subject)
    (isRaw : Bool) (definition : Definition) : BuildM Definition :=
  let node := subject.node
  match node.kind with
  | .union members =>
    catalog.unionSchema build request.owner request.unionKeyword members definition
  | .intersection members => catalog.intersectionSchema build members definition
  | kind =>
    if isRaw then catalog.plainSchema build subject.id node subject.named definition
    else match kind with
      | .enum members => do
        let name ← catalog.printed subject.id
        (Enumeration.warnings name members).forM BuildM.note
        return Enumeration.define members definition
      | .enumLiteral _ =>
        return match kind.literal? with
          | some value => definition.setLiteral value
          | none => definition
      | .object [] true index =>
        catalog.emptyObjectSchema build request subject.named index definition
      | .object _ _ _ => catalog.objectSchema build subject.id node definition
      | _ => catalog.plainSchema build subject.id node subject.named definition

/-- Builds the definition of the frame's subject.  A definition that annotations gave a `type` is left
as it is. -/
def define (catalog : Catalog) (build : Builder) (request : Request) (frame : Frame)
    (definition : Definition) : BuildM Definition := do
  if definition.contains "type" then return definition
  else
    let chain := frame :: request.above
    BuildM.act (.applied chain)
    catalog.structureSchema (fun part => build { part with above := chain }) request frame.subject
      frame.plan.isRaw definition

/-- Builds the definition of a name that references point to, unless it is known.  Its place is taken
before, so that the name is found taken on the way around a cycle. -/
def defineShared (catalog : Catalog) (build : Builder) (request : Request) (frame : Frame)
    (definition : Definition) : BuildM Unit := do
  if !(← BuildM.context).isReffed frame.plan.name then
    BuildM.act (.promoted frame)
    let titled := if catalog.options.titles then
      definition.insert "title" (.string frame.plan.name) else definition
    let done ← catalog.define build request frame titled
    BuildM.act (.completed frame done)

/-- A reference to the definition that the frame is named by. -/
def refer (frame : Frame) : BuildM Definition := do
  BuildM.act (.referred frame)
  return (← BuildM.context).refTo frame.plan.name

/-- Ends the construction: whoever took it up answers with a reference if the name has become one
that references point to. -/
def finish (frame : Frame) (answer : Definition) : BuildM Definition :=
  match frame.plan.token with
  | none => return answer
  | some token => do
    let isOwn ← BuildM.answer fun context => context.leave frame.plan.name token
    if isOwn && (← BuildM.context).isReffed frame.plan.name then
      return (← refer frame).merge answer.refAnnotations
    else return answer

/-- The keywords that the owner's annotations give. -/
def ownerKeywords (owner : Option Owner) : Definition :=
  match owner with
  | some owner => owner.annotations.definition
  | none => Definition.empty

/-- Answers a request as planned: where a reference is the answer, the owner's keywords stand beside
it and not in the definition. -/
def carryOut (catalog : Catalog) (build : Builder) (request : Request) (frame : Frame) :
    BuildM Definition := do
  let described ← catalog.annotate frame.subject.describing
  let keywords := ownerKeywords request.owner
  if frame.plan.isReference then
    let reference ← refer frame
    catalog.defineShared build request frame described
    finish frame (reference.merge keywords)
  else
    finish frame (← catalog.define build request frame (described.merge keywords))

/-- What the owner's annotations say instead of the type, if they do. -/
def settled? (owner : Option Owner) : Option Definition :=
  match owner with
  | some owner =>
    if owner.annotations.isIgnored || owner.annotations.definition.contains "type" then
      some owner.annotations.definition
    else none
  | none => none

/-- Answers a request, with the parts of the type built by `build`. -/
def respond (catalog : Catalog) (build : Builder) (request : Request) : BuildM Definition := do
  let subject ← BuildM.take
    (catalog.graph.unwrap (catalog.graph.types.size + 1) request.type request.named)
  match settled? request.owner with
  | some definition => return definition
  | none =>
    let plan ← catalog.plan subject request.asReference
    return catalog.hook (← catalog.carryOut build request ⟨subject, plan⟩)

/-- Answers requests down to the given depth. -/
def buildWithin (catalog : Catalog) : Nat → Builder
  | 0, request => throw (.endlessType request.type)
  | depth + 1, request => catalog.respond (catalog.buildWithin depth) request

/-- How deep the recursion goes at most where it ends.  On a way down each name is taken up at most
once and given its definition at most once, and between two such steps no type comes twice. -/
def depthBound (catalog : Catalog) : Nat :=
  let types := catalog.graph.types.size + 1
  let names := types * (catalog.graph.symbols.size + 2)
  (4 * names + 2) * types

/-- Answers requests. -/
def build (catalog : Catalog) : Builder :=
  catalog.buildWithin catalog.depthBound

end Catalog

end TypeSchema
