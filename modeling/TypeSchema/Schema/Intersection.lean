import TypeSchema.Schema.Building

/-!
# Intersections

Members that are nothing but a type fold into one `type`; the others stay side by side under `allOf`,
with the folded type last.  A single schema that results is the intersection's own.
-/

set_option autoImplicit false

namespace TypeSchema

/-- What the members of an intersection have left so far: distinct type names, and schemas in
order. -/
structure Factors where
  types : List String := []
  schemas : List Definition := []

namespace Factors

/-- Adds a type name unless it is there. -/
def addType (factors : Factors) (name : String) : Factors :=
  if factors.types.contains name then factors
  else { factors with types := factors.types ++ [name] }

/-- Adds a schema. -/
def addSchema (factors : Factors) (schema : Definition) : Factors :=
  { factors with schemas := factors.schemas ++ [schema] }

/-- Type names under `type`: the one name, or the list of them. -/
def typesJson : List String → Json
  | [one] => .string one
  | many => Json.strings many

/-- All schemas, with that of the type names last. -/
def all (factors : Factors) : List Definition :=
  if factors.types.isEmpty then factors.schemas
  else factors.schemas ++ [Definition.empty.insert "type" (typesJson factors.types)]

end Factors

/-- Enters the factors of an intersection. -/
def Definition.intersect (definition : Definition) (schemas : List Definition) : Definition :=
  match schemas with
  | [only] => definition.merge only
  | _ => definition.insert "allOf" (.array (schemas.map Definition.toJson))

namespace Catalog

/-- Adds what a member of an intersection leaves. -/
def addFactor (catalog : Catalog) (build : Builder) (factors : Factors) (id : TypeId) :
    BuildM Factors := do
  let schema ← build (catalog.member id)
  if schema.typeName? = some "undefined" then
    BuildM.note (.undefinedMember (← catalog.printed id))
    return factors
  else if schema.isBareType then
    match schema.typeName? with
    | some name => return factors.addType name
    | none =>
      BuildM.note (.compoundMember (← catalog.printed id))
      return factors
  else return factors.addSchema schema

/-- Enters the schema of an intersection. -/
def intersectionSchema (catalog : Catalog) (build : Builder) (members : List TypeId)
    (definition : Definition) : BuildM Definition := do
  let factors ← members.foldlM (catalog.addFactor build) {}
  return definition.intersect factors.all

end Catalog

end TypeSchema
