import TypeSchema.Json.Printer
import TypeSchema.OpenApi.Document
import TypeSchema.Schema.Document

/-!
# Operations from API shapes

An API shape is an object type that describes one operation: its members `path`, `method` and
`responses` have to be there, `params`, `query`, `body` and `security` may be.  What the shape's own
doc comment says becomes entries of the operation, and schemas come from the same builder as those of
any other type.
-/

set_option autoImplicit false

namespace TypeSchema

open OpenApi

namespace TypeNode

/-- Whether the type says nothing: `undefined`, `unknown`, `null` or an object without members. -/
def isEmptyObject (node : TypeNode) : Bool :=
  match node.kind with
  | .undefined => true
  | .unknown => true
  | .null => true
  | .object properties _ index => properties.isEmpty && index.isNone && node.numberIndex.isNone
  | _ => false

/-- Whether the type is an object. -/
def isObject (node : TypeNode) : Bool :=
  match node.kind with
  | .object _ _ _ => true
  | _ => false

end TypeNode

namespace OpenApi

/-- The members of a shape that have a meaning. -/
def shapeMembers : List String :=
  ["path", "method", "params", "query", "body", "responses", "security"]

/-- Three digits, from 100 to 599. -/
def isStatusCode (text : String) : Bool :=
  match text.toList with
  | [a, b, c] => a.isDigit && b.isDigit && c.isDigit && '1' ≤ a && a ≤ '5'
  | _ => false

/-- Tags as annotations give them: a list with commas, an array of texts, or a single value. -/
def splitTags : Json → List String
  | .string text => Text.commaList text
  | .array items => items.filterMap Json.text?
  | value => [value.compact]

/-- Follows a reference to the definition it points to, if there is one. -/
def resolve (context : Context) (schema : Definition) : Definition :=
  match schema.refTarget? with
  | some target => (Dict.get? context.reffed (Text.afterLast '/' target)).getD schema
  | none => schema

/-- The objects of an intersection, else the schema itself. -/
def parameterBranches (context : Context) (schema : Definition) : List Definition :=
  match (schema.get? "allOf").bind Json.items? with
  | some branches => (branches.filterMap Definition.ofJson?).map (resolve context)
  | none => [schema]

/-- The parameters that the properties of a branch are. -/
def branchParameters (location : ParameterLocation) (branch : Definition) : List Parameter :=
  (branch.properties?.getD []).filterMap fun (name, value) =>
    (Definition.ofJson? value).map fun schema =>
      { name, location, isRequired := branch.requires name
        description := schema.get? "description", schema }

/-- The scopes of a security scheme: the texts its items are chosen from. -/
def scopes (context : Context) (value : Json) : List String :=
  let items := (Definition.ofJson? value).bind fun schema =>
    ((resolve context schema).get? "items").bind Definition.ofJson?
  match items with
  | some items =>
    ((((resolve context items).get? "enum").bind Json.items?).getD []).filterMap Json.text?
  | none => []

/-- The alternatives of a union, else the schema itself. -/
def alternatives (schema : Definition) : List Definition :=
  let branches := ((schema.get? "anyOf").bind Json.items?).or
    ((schema.get? "oneOf").bind Json.items?)
  match branches with
  | some branches => branches.filterMap Definition.ofJson?
  | none => [schema]

/-- What an alternative requires: its properties are schemes. -/
def requirement? (context : Context) (alternative : Definition) : Option SecurityRequirement :=
  (resolve context alternative).properties?.map fun properties =>
    Dict.ofEntries (properties.map fun (scheme, schema) => (scheme, scopes context schema))

/-- The security requirements an array type describes. -/
def requirements? (context : Context) (schema : Definition) :
    Option (List SecurityRequirement) :=
  if schema.typeName? = some "array" then
    ((schema.get? "items").bind Definition.ofJson?).bind fun items =>
      (alternatives (resolve context items)).mapM (requirement? context)
  else none

/-- What the doc comment of a shape says, taken apart: entries of the operation and of its body. -/
structure ShapeKeywords where
  tags : Option (List String)
  body : Dict Json
  operationId : Option String
  others : Dict Json

/-- Takes apart what the doc comment of a shape says. -/
def ShapeKeywords.ofDefinition (definition : Definition) : ShapeKeywords :=
  { tags := (definition.get? "tags").map splitTags
    body := ((definition.get? "body").bind Json.fields?).getD []
    operationId := (definition.get? "operationId").bind Json.text?
    others := Dict.erase (Dict.erase (Dict.erase definition "tags") "body") "operationId" }

end OpenApi

namespace Catalog

/-- Whether the type is an object or an intersection of objects only. -/
def isPlainObject (catalog : Catalog) (node : TypeNode) : BuildM Bool :=
  match node.kind with
  | .object _ _ _ => return true
  | .intersection members => do
    return (← members.mapM catalog.type).all TypeNode.isObject
  | _ => return false

/-- The first property of the shape with the name. -/
def shapeMember? (catalog : Catalog) (node : TypeNode) (key : String) :
    BuildM (Option Property) := do
  let named ← node.properties.mapM fun property => do
    return ((← catalog.symbol property.symbol).name, property)
  return (named.find? fun entry => entry.1 == key).map Prod.snd

/-- A member the shape has to have. -/
def requiredMember (catalog : Catalog) (shape : String) (node : TypeNode) (key : String) :
    BuildM Property := do
  match ← catalog.shapeMember? node key with
  | some property => return property
  | none => throw (.shape shape (.missing key))

/-- The text of a member that has to be a string literal. -/
def literalMember (catalog : Catalog) (shape key : String) (property : Property) :
    BuildM String := do
  match (← catalog.type property.type).kind with
  | .stringLiteral value => return value
  | _ => throw (.shape shape (.notStringLiteral key))

/-- The schema of a member, looked up where it is a reference. -/
def memberSchema (catalog : Catalog) (id : TypeId) : BuildM Definition := do
  let schema ← catalog.build (catalog.member id (← catalog.type id).symbol)
  return resolve (← BuildM.context) schema

/-- The type of content that annotations give, else the one of the options. -/
def contentType (catalog : Catalog) (annotated : Option Json) : String :=
  (annotated.bind Json.text?).getD catalog.options.contentType

/-- The parameters that a member describes. -/
def parameters (catalog : Catalog) (shape key : String) (location : ParameterLocation)
    (id : TypeId) : BuildM (List Parameter) := do
  let node ← catalog.type id
  if node.isEmptyObject then return []
  else if ← catalog.isPlainObject node then
    let schema ← catalog.memberSchema id
    return (parameterBranches (← BuildM.context) schema).flatMap (branchParameters location)
  else throw (.shape shape (.notObject key))

/-- The body that a member describes. -/
def requestBody (catalog : Catalog) (shape : String) (keywords : Dict Json) (id : TypeId) :
    BuildM (Option RequestBody) := do
  let node ← catalog.type id
  if node.isEmptyObject then return none
  else if ← catalog.isPlainObject node then
    let schema ← catalog.build (catalog.member id node.symbol)
    return some
      { annotations := Dict.erase keywords "contentType"
        content := [(catalog.contentType (Dict.get? keywords "contentType"), ⟨schema⟩)] }
  else throw (.shape shape (.notObject "body"))

/-- Accepts the type of a response: `never`, or an object. -/
def checkResponse (catalog : Catalog) (shape status : String) (node : TypeNode) : BuildM Unit := do
  if node.kind == .never then return ()
  else if ← catalog.isPlainObject node then return ()
  else throw (.shape shape (.responseNotObject status))

/-- The response that a property of `responses` describes; one of type `never` has no content. -/
def describeResponse (catalog : Catalog) (property : Property) (node : TypeNode) :
    BuildM Response := do
  let keywords := (← catalog.annotations property.symbol).definition
  let rest := Dict.erase (Dict.erase keywords "contentType") "description"
  let description := (keywords.get? "description").getD (.string "")
  if node.kind == .never then return { description, annotations := rest }
  else
    let schema ← catalog.build (catalog.member property.type node.aliasSymbol)
    let contentType := catalog.contentType (keywords.get? "contentType")
    return { description, annotations := rest, content := some [(contentType, ⟨schema⟩)] }

/-- The response that a property of `responses` describes, with its status. -/
def response (catalog : Catalog) (shape : String) (property : Property) :
    BuildM (String × Response) := do
  let status := (← catalog.symbol property.symbol).name
  if !isStatusCode status then throw (.invalidStatusCode shape status)
  let node ← catalog.type property.type
  catalog.checkResponse shape status node
  return (status, ← catalog.describeResponse property node)

/-- The responses that the member describes, by their status. -/
def responses (catalog : Catalog) (shape : String) (id : TypeId) : BuildM (Dict Response) := do
  let node ← catalog.type id
  if !(← catalog.isPlainObject node) || node.properties.isEmpty then
    throw (.shape shape .noResponses)
  return Dict.ofEntries (← node.properties.mapM (catalog.response shape))

/-- The security requirements that a member describes. -/
def securityRequirements (catalog : Catalog) (shape : String) (id : TypeId) :
    BuildM (List SecurityRequirement) := do
  let schema ← catalog.memberSchema id
  match requirements? (← BuildM.context) schema with
  | some requirements => return requirements
  | none => throw (.shape shape .securityNotArray)

/-- The entry of an operation that a literal member without another meaning becomes. -/
def customEntry (catalog : Catalog) (property : Property) : BuildM (Option (String × Json)) := do
  let name := (← catalog.symbol property.symbol).name
  if shapeMembers.contains name then return none
  let kind := (← catalog.type property.type).kind
  let key := if name.startsWith "x-" then name else catalog.options.customLead ++ name
  return kind.literal?.map fun value => (key, value.toJson)

/-- The entries of an operation that literal members without another meaning become, if they are
asked for. -/
def customEntries (catalog : Catalog) (node : TypeNode) : BuildM (List (String × Json)) :=
  if catalog.options.customOperationEntries then do
    return (← node.properties.mapM catalog.customEntry).reduceOption
  else return []

/-- Works on a member if the shape has it. -/
def withMember {α : Type} (catalog : Catalog) (node : TypeNode) (key : String) (absent : α)
    (work : TypeId → BuildM α) : BuildM α := do
  match ← catalog.shapeMember? node key with
  | some property => work property.type
  | none => return absent

/-- An operation, the path it is offered at and its method. -/
structure PlacedOperation where
  path : String
  method : HttpMethod
  operation : Operation

/-- The method that the member names. -/
def shapeMethod (catalog : Catalog) (shape : String) (property : Property) :
    BuildM HttpMethod := do
  let text ← catalog.literalMember shape "method" property
  match HttpMethod.ofName? text with
  | some method => return method
  | none => throw (.shape shape (.unknownMethod text))

/-- What the symbol of a shape says, and the name it gives the operation. -/
def shapeAnnotations (catalog : Catalog) (node : TypeNode) :
    BuildM (Annotations × Option String) :=
  match node.namingSymbol with
  | some id => do return (← catalog.annotations id, some (← catalog.symbol id).name)
  | none => return ({}, none)

/-- The operation that a shape describes; a shape to be ignored describes none. -/
def operation (catalog : Catalog) (shape : String) (id : TypeId) :
    BuildM (Option PlacedOperation) := do
  let node ← catalog.type id
  let (annotations, symbolName) ← catalog.shapeAnnotations node
  if annotations.isIgnored then return none
  let pathMember ← catalog.requiredMember shape node "path"
  let methodMember ← catalog.requiredMember shape node "method"
  let responsesMember ← catalog.requiredMember shape node "responses"
  let path ← catalog.literalMember shape "path" pathMember
  let method ← catalog.shapeMethod shape methodMember
  let keywords := ShapeKeywords.ofDefinition annotations.definition
  let inPath ← catalog.withMember node "params" [] (catalog.parameters shape "params" .path)
  let inQuery ← catalog.withMember node "query" [] (catalog.parameters shape "query" .query)
  let body ← catalog.withMember node "body" none (catalog.requestBody shape keywords.body)
  let responses ← catalog.responses shape responsesMember.type
  let security ← catalog.withMember node "security" none fun id => do
    return some (← catalog.securityRequirements shape id)
  let custom ← catalog.customEntries node
  return some
    { path, method
      operation :=
        { operationId := keywords.operationId <|> symbolName
          tags := keywords.tags
          annotations := Dict.extend keywords.others custom
          parameters := inPath ++ inQuery
          requestBody := body
          responses, security } }

end Catalog

end TypeSchema
