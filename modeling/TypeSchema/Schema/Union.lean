import TypeSchema.Schema.Building

/-!
# Unions

The literal members of a union fold into one `enum`, the others are built one by one.  A single
schema that results is the union's own; several go under the keyword for branches, except that a
primitive beside `null` becomes one nullable schema.  Members that are `undefined` leave no branch:
they only mark the property that owns the union.
-/

set_option autoImplicit false

namespace TypeSchema

/-- What the members of a union have left so far: distinct literals, and schemas in order. -/
structure Branches where
  values : List Literal := []
  schemas : List Definition := []

namespace Branches

/-- Adds a literal unless its value is there. -/
def addValue (branches : Branches) (value : Literal) : Branches :=
  if value.among branches.values then branches
  else { branches with values := branches.values ++ [value] }

/-- Adds a schema. -/
def addSchema (branches : Branches) (schema : Definition) : Branches :=
  { branches with schemas := branches.schemas ++ [schema] }

/-- The one kind that all values have, if they have one. -/
def commonKind? : List Literal → Option LiteralKind
  | [] => none
  | first :: rest => if rest.all fun v => v.kind == first.kind then some first.kind else none

/-- Whether the values are the two truth values. -/
def isBothBooleans (values : List Literal) : Bool :=
  values.length == 2 && values.all fun v => v.kind == .bool

/-- The schema of literals that are not all there are of their kind: their values, and their kind if
they have one in common.  Both truth values are simply the type of truth values. -/
def valuesSchema (values : List Literal) : Definition :=
  let listed :=
    if isBothBooleans values then Definition.empty
    else Definition.empty.insert "enum" (.array ((Literal.sort values).map Literal.toJson))
  match commonKind? values with
  | none => listed
  | some .null => listed
  | some kind => listed.insert "type" (.string kind.name)

/-- All schemas, with that of the literals last. -/
def all (branches : Branches) : List Definition :=
  if branches.values.isEmpty then branches.schemas
  else branches.schemas ++ [valuesSchema branches.values]

end Branches

namespace Definition

/-- Writes `null` with the keyword `nullable`. -/
def makeNullable (schema : Definition) : Definition :=
  (schema.insert "type" (.string "object")).insert "nullable" (.bool true)

/-- Whether the schema is `null` written with the keyword `nullable`, and nothing else. -/
def isNullableNull (schema : Definition) : Bool :=
  schema.length == 2 && schema.typeName? == some "object" &&
    match schema.get? "nullable" with
    | some (.bool true) => true
    | _ => false

/-- The schemas of a primitive type and of `null`, the latter last, if these are the two. -/
def primitiveAndNull? : List Definition → Option (Definition × Definition)
  | [a, b] =>
    if isNullableNull a && isBareType b then some (b, a)
    else if isNullableNull b && isBareType a then some (a, b)
    else none
  | _ => none

/-- Enters the branches of a union. -/
def unite (definition : Definition) (keyword : UnionKeyword) (nullable : Bool)
    (schemas : List Definition) : Definition :=
  match schemas with
  | [only] => definition.merge only
  | _ =>
    match if nullable then primitiveAndNull? schemas else none with
    | some (primitive, null) => (definition.merge primitive).merge null
    | none => definition.insert keyword.name (.array (schemas.map Definition.toJson))

end Definition

namespace Catalog

/-- The alias under which a union lists a member: its annotations come with the member. -/
def memberOwner (catalog : Catalog) (node : TypeNode) : BuildM (Option Owner) :=
  match node.aliasSymbol with
  | some id => do return some ⟨id, ← catalog.annotations id⟩
  | none => return none

/-- Adds what a member of a union leaves. -/
def addBranch (catalog : Catalog) (build : Builder) (owner : Option Owner) (branches : Branches)
    (id : TypeId) : BuildM Branches := do
  let node ← catalog.type id
  match node.kind.literal? with
  | some value => return branches.addValue value
  | none =>
    let memberOwner ← catalog.memberOwner node
    let schema ← build { catalog.member id node.aliasSymbol with owner := memberOwner }
    match schema.typeName? with
    | some "undefined" =>
      if let some owner := owner then
        BuildM.act (.dropped owner.symbol)
      return branches
    | some "null" =>
      return branches.addSchema
        (if catalog.options.usesNullableKeyword then schema.makeNullable else schema)
    | _ => return branches.addSchema schema

/-- Enters the schema of a union. -/
def unionSchema (catalog : Catalog) (build : Builder) (owner : Option Owner)
    (keyword : UnionKeyword) (members : List TypeId) (definition : Definition) :
    BuildM Definition := do
  let branches ← members.foldlM (catalog.addBranch build owner) {}
  return definition.unite keyword catalog.options.usesNullableKeyword branches.all

end Catalog

end TypeSchema
