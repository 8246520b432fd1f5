import TypeSchema.Schema.Building

/-!
# Plain types

Keyword types, literals, dates, tuples and arrays: the types that are described where they are used
and never by a reference.
-/

set_option autoImplicit false

namespace TypeSchema

/-- Enters `type`. -/
def Definition.setType (definition : Definition) (name : String) : Definition :=
  definition.insert "type" (.string name)

/-- Enters a literal as the only value. -/
def Definition.setLiteral (definition : Definition) (value : Literal) : Definition :=
  (definition.setType value.kind.name).insert "enum" (.array [value.toJson])

/-- Enters what a tuple of the given items is. -/
def Definition.setTuple (definition : Definition) (items : List Definition) (minLength : Nat)
    (hasRest : Bool) : Definition :=
  let typed := definition.setType "array"
  let listed := if items.isEmpty then typed
    else typed.insert "items" (.array (items.map Definition.toJson))
  let least := listed.insert "minItems" (Json.ofNat minLength)
  if hasRest then least else least.insert "maxItems" (Json.ofNat items.length)

namespace Catalog

/-- Whether the symbol, if there is one, has the name `integer`. -/
def namesInteger (catalog : Catalog) (id : Option SymbolId) : BuildM Bool :=
  match id with
  | some id => do return (← catalog.symbol id).name == "integer"
  | none => return false

/-- Whether a number is an integer: because the annotations or one of its symbols say so, or because
numbers are integers by default. -/
def isInteger (catalog : Catalog) (node : TypeNode) (named : Option SymbolId)
    (definition : Definition) : BuildM Bool := do
  let byName ← [named, node.symbol, node.aliasSymbol].anyM catalog.namesInteger
  return definition.typeName? == some "integer" || byName ||
    catalog.options.numberType == .integer

/-- Whether the symbol, if there is one, is that of dates. -/
def isDate (catalog : Catalog) (id : Option SymbolId) : BuildM Bool :=
  match id with
  | some id => do return (← catalog.symbol id).fullName == "Date"
  | none => return false

/-- Enters the schema of a literal or of an array; nothing else is left that has one. -/
def literalOrArray (catalog : Catalog) (build : Builder) (id : TypeId) (node : TypeNode)
    (definition : Definition) : BuildM Definition :=
  match node.kind.literal?, node.numberIndex with
  | some value, _ => return definition.setLiteral value
  | none, some element => do
    let typed := definition.setType "array"
    if typed.contains "items" then return typed
    else return typed.insert "items" (← build (catalog.member element)).toJson
  | none, none => do throw (.unsupportedType (← catalog.printed id) id)

/-- Enters the schema of a plain type. -/
def plainSchema (catalog : Catalog) (build : Builder) (id : TypeId) (node : TypeNode)
    (named : Option SymbolId) (definition : Definition) : BuildM Definition :=
  match node.kind with
  | .tuple elements minLength hasRest => do
    let items ← elements.mapM fun element => build (catalog.member element)
    return definition.setTuple items minLength hasRest
  | .string => return definition.setType "string"
  | .number => do
    let isInteger ← catalog.isInteger node named definition
    return definition.setType (if isInteger then "integer" else "number")
  | .boolean => return definition.setType "boolean"
  | .null =>
    return if catalog.options.usesNullableKeyword then
      (definition.setType "object").insert "nullable" (.bool true)
    else definition.setType "null"
  | .undefined => return definition.setType "undefined"
  | .void => return definition.setType "undefined"
  | .any => return definition
  | .unknown => return definition
  | .nonPrimitive =>
    return ((definition.setType "object").insert "properties" (.object [])).insert
      "additionalProperties" (.bool true)
  | .object _ _ _ => do
    if ← catalog.isDate node.symbol then
      return (definition.setType "string").insertNew "format" (.string "date-time")
    else catalog.literalOrArray build id node definition
  | _ => catalog.literalOrArray build id node definition

end Catalog

end TypeSchema
