import TypeSchema.Schema.Building

/-!
# Objects

Interfaces, classes and object literal types.  An abstract class that others extend is described by
the choice of those that do.  Any other object lists the schemas of its properties and the names of
those that have to be there: the ones that are neither optional nor possibly `undefined`.
-/

set_option autoImplicit false

namespace TypeSchema

namespace Definition

/-- Enters the default value that an initializer gives, with what there is to log about it. -/
def setDefault (definition : Definition) (property source : String) :
    Definition × List LogEntry :=
  match Literal.readInitializer source with
  | .ok ⟨value, false⟩ => (definition.insert "default" value, [])
  | .ok ⟨value, true⟩ =>
    (definition.insert "default" value, [.assertedDefault property source])
  | .error fault => (definition, [.defaultSkipped property source fault.message])

/-- Enters the schemas of the properties. -/
def setProperties (definition : Definition) (kept : List KeptProperty) : Definition :=
  let typed := definition.insertNew "type" (.string "object")
  if typed.typeName? = some "object" ∧ kept ≠ [] then
    typed.insert "properties" (.object (Dict.ofEntries (kept.map fun p => (p.name, p.schema.toJson))))
  else typed

/-- Enters the names of the properties that have to be there. -/
def setRequired (definition : Definition) (names : List String) : Definition :=
  match names.foldl (fun sorted name => insertName name sorted) [] with
  | [] => definition
  | sorted => definition.insert "required" (Json.strings sorted)

end Definition

namespace Catalog

/-- The properties of an object that schemas know of: not the private ones, and not those of type
`never`. -/
def visibleProperties (catalog : Catalog) (node : TypeNode) : BuildM (List Property) :=
  node.properties.filterM fun property => do
    if property.isPrivate then return false
    else return (← catalog.type property.type).kind != .never

/-- The schema of a property; a property that is `undefined` has none. -/
def propertySchema (catalog : Catalog) (build : Builder) (property : Property)
    (annotations : Annotations) : BuildM (Option Definition) := do
  let name := (← catalog.symbol property.symbol).name
  let schema ← build
    { catalog.member property.type property.referenced with
      owner := some ⟨property.symbol, annotations⟩ }
  if schema.typeName? = some "undefined" then return none
  let titled := if catalog.options.titles then schema.insert "title" (.string name) else schema
  match property.initializer with
  | none => return some titled
  | some source =>
    let (done, events) := titled.setDefault name source
    events.forM BuildM.note
    return some done

/-- A property with its schema; methods and ignored properties are left out. -/
def keptProperty (catalog : Catalog) (build : Builder) (property : Property) :
    BuildM (Option KeptProperty) := do
  if property.isMethod then return none
  let annotations ← catalog.annotations property.symbol
  if annotations.isIgnored then return none
  match ← catalog.propertySchema build property annotations with
  | none => return none
  | some schema => return some ⟨property, (← catalog.symbol property.symbol).name, schema⟩

/-- The names of the declarations that extend an abstract class; none for any other object. -/
def subtypesOf (catalog : Catalog) (id : TypeId) (node : TypeNode) : BuildM (List String) := do
  match node.symbol with
  | none => return []
  | some symbol =>
    if (← catalog.symbol symbol).isAbstract then
      return (Dict.get? catalog.subtypes (← catalog.printed id)).getD []
    else return []

/-- The schema of an object with the kept properties; those whose symbol is marked as absent may be
`undefined`. -/
def listProperties (catalog : Catalog) (start : Definition) (kept : List KeptProperty)
    (absent : List SymbolId) : Definition :=
  let listed := start.setProperties kept
  if catalog.options.ignoreRequired then listed
  else listed.setRequired ((kept.filter fun p =>
    !p.property.isOptional && !absent.contains p.property.symbol).map KeptProperty.name)

/-- Enters the schema of an object. -/
def objectSchema (catalog : Catalog) (build : Builder) (id : TypeId) (node : TypeNode)
    (definition : Definition) : BuildM Definition := do
  let properties ← catalog.visibleProperties node
  let subtypes ← catalog.subtypesOf id node
  if subtypes ≠ [] then
    let branches ← (subtypes.filterMap (Dict.get? catalog.declared)).mapM fun subtype =>
      build (catalog.member subtype)
    return definition.insert "oneOf" (.array (branches.map Definition.toJson))
  else
    let kept := (← properties.mapM (catalog.keptProperty build)).reduceOption
    let schema := catalog.listProperties definition kept (← BuildM.context).absent
    BuildM.act (.listed ⟨id, definition, kept, schema⟩)
    return schema

end Catalog

end TypeSchema
