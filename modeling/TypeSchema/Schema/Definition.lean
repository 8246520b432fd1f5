import TypeSchema.Json.Basic

/-!
# Definitions

A definition is a schema in the making: keywords in insertion order, which is also the order in
which they are emitted.
-/

set_option autoImplicit false

namespace TypeSchema

/-- A schema: keywords and their values in insertion order. -/
abbrev Definition := Dict Json

namespace Definition

/-- The schema without keywords. -/
def empty : Definition := []

/-- The schema that refers to another one by its path. -/
def reference (path : String) : Definition :=
  [("$ref", .string path)]

/-- The schema of a type given by its name alone. -/
def ofType (name : String) : Definition :=
  [("type", .string name)]

/-- An object as a schema. -/
def ofJson? (value : Json) : Option Definition :=
  value.fields?

/-- The schema as a JSON object. -/
def toJson (definition : Definition) : Json :=
  .object definition

/-- Enters a keyword: in place if it is there, else at the end. -/
def insert (definition : Definition) (key : String) (value : Json) : Definition :=
  Dict.insert definition key value

/-- Enters a keyword only if it is not there yet. -/
def insertNew (definition : Definition) (key : String) (value : Json) : Definition :=
  Dict.insertNew definition key value

/-- The value of a keyword. -/
def get? (definition : Definition) (key : String) : Option Json :=
  Dict.get? definition key

/-- Whether the keyword is there. -/
def contains (definition : Definition) (key : String) : Bool :=
  Dict.contains definition key

theorem get?_eq_none_of_not_contains {definition : Definition} {key : String}
    (h : definition.contains key = false) : definition.get? key = none := by
  simpa [contains, Dict.contains, get?] using h

/-- Enters every keyword of `other`. -/
def merge (definition other : Definition) : Definition :=
  Dict.extend definition other

/-- The `type` keyword when it is a single name. -/
def typeName? (definition : Definition) : Option String :=
  (definition.get? "type").bind Json.text?

/-- Where the schema refers to. -/
def refTarget? (definition : Definition) : Option String :=
  (definition.get? "$ref").bind Json.text?

theorem get?_of_typeName? {definition : Definition} {name : String}
    (h : definition.typeName? = some name) : definition.get? "type" = some (.string name) := by
  obtain ⟨value, hget, htext⟩ := Option.bind_eq_some_iff.1 h
  rw [hget, Json.eq_string_of_text? htext]

theorem get?_of_refTarget? {definition : Definition} {target : String}
    (h : definition.refTarget? = some target) : definition.get? "$ref" = some (.string target) := by
  obtain ⟨value, hget, htext⟩ := Option.bind_eq_some_iff.1 h
  rw [hget, Json.eq_string_of_text? htext]

/-- Whether `type` is the only keyword. -/
def isBareType (definition : Definition) : Bool :=
  definition.length == 1 && definition.contains "type"

/-- The keywords that may stand beside `$ref`. -/
def descriptive : List String :=
  ["description", "default", "examples"]

/-- The descriptive keywords of the schema. -/
def refAnnotations (definition : Definition) : Definition :=
  definition.filter fun entry => descriptive.contains entry.1

/-- The schemas of the properties. -/
def properties? (definition : Definition) : Option (Dict Json) :=
  (definition.get? "properties").bind Json.fields?

theorem get?_of_properties? {definition : Definition} {properties : Dict Json}
    (h : definition.properties? = some properties) :
    definition.get? "properties" = some (.object properties) := by
  obtain ⟨value, hget, hfields⟩ := Option.bind_eq_some_iff.1 h
  rw [hget, Json.eq_object_of_fields? hfields]

/-- Whether the property is listed as required. -/
def requires (definition : Definition) (name : String) : Bool :=
  match (definition.get? "required").bind Json.items? with
  | some names => names.any fun n => n.text? == some name
  | none => false

end Definition

end TypeSchema
