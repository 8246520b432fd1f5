import TypeSchema.Schema.Definition
import TypeSchema.Schema.Modules

/-!
# Annotations

Doc comments describe schemas: the text becomes `description`, and a tag that names a keyword enters
that keyword.  A tag `parent.sub` enters the keyword `sub` in an object under `parent`; it may also be
written as a tag `parent` whose text begins with `.sub`.  All other tags are only remembered by name,
such as `@ignore`.
-/

set_option autoImplicit false

namespace TypeSchema

/-! ## Keywords -/

/-- The kinds of keywords. -/
inductive KeywordKind
  | validation
  | openApi
  | custom
deriving DecidableEq, Repr

/-- Keywords of schemas. -/
def validationKeywords : List String :=
  [ "format", "enum", "type", "items", "maximum", "exclusiveMaximum", "minimum",
    "exclusiveMinimum", "maxLength", "minLength", "pattern", "examples", "maxItems", "minItems",
    "uniqueItems", "multipleOf", "maxProperties", "minProperties", "additionalProperties",
    "example", "description", "default", "ref", "$ref", "title" ]

/-- Keywords of operations. -/
def openApiKeywords : List String :=
  ["summary", "operationId", "tags", "contentType", "deprecated"]

/-- The keywords that are recognized: the fixed ones and custom ones, which are emitted with a
lead. -/
structure Keywords where
  custom : List String
  lead : String

namespace Keywords

/-- The kind of a keyword, if the name is one. -/
def classify? (keywords : Keywords) (name : String) : Option KeywordKind :=
  if validationKeywords.contains name then some .validation
  else if openApiKeywords.contains name then some .openApi
  else if keywords.custom.contains name then some .custom
  else none

/-- The name under which a keyword is emitted. -/
def emittedName (keywords : Keywords) (name : String) : KeywordKind → String
  | .custom => keywords.lead ++ name
  | _ => name

/-- The name under which a recognized keyword is emitted. -/
def emitted? (keywords : Keywords) (name : String) : Option String :=
  (keywords.classify? name).map (keywords.emittedName name)

end Keywords

/-! ## Annotations of a symbol -/

/-- What the doc comments of symbols say: keywords, and the names of all other tags in order. -/
structure Annotations where
  definition : Definition := Definition.empty
  others : List String := []

/-- Enters a name into an ordered list without repetition. -/
def insertName (name : String) : List String → List String
  | [] => [name]
  | first :: rest =>
    if name < first then name :: first :: rest
    else if name = first then first :: rest
    else first :: insertName name rest

namespace Annotations

/-- Whether the annotated thing is to be left out. -/
def isIgnored (annotations : Annotations) : Bool :=
  annotations.others.contains "ignore"

/-- Enters a keyword. -/
def insert (annotations : Annotations) (key : String) (value : Json) : Annotations :=
  { annotations with definition := annotations.definition.insert key value }

/-- Enters a keyword in the object under `parent`; a value there that is no object gives way. -/
def nest (annotations : Annotations) (parent key : String) (value : Json) : Annotations :=
  let inner := match annotations.definition.get? parent with
    | some (.object fields) => fields
    | _ => []
  annotations.insert parent (.object (Dict.insert inner key value))

/-- Remembers the name of a tag that is no keyword. -/
def remember (annotations : Annotations) (name : String) : Annotations :=
  { annotations with others := insertName name annotations.others }

end Annotations

/-- What is needed to read annotations. -/
structure AnnotationReader where
  keywords : Keywords
  modules : Modules

namespace AnnotationReader

open TypeSchema.Text

/-- The text of a piece of documentation; around a link's text blanks are dropped. -/
def partText (part : DocPart) : List Char :=
  let text := unixLines part.text.toList
  if part.kind = .linkText then trimList text else text

/-- The description a doc comment gives, if there is one and the symbol is the program's own. -/
def description? (symbol : Symbol) : Option String :=
  if symbol.isBuiltin || symbol.documentation.isEmpty then none
  else some (String.ofList (trimList (symbol.documentation.flatMap partText)))

/-- The value of a tag with a text: what it requires, else the JSON value it is, else the text. -/
def textValue (reader : AnnotationReader) (symbol : Symbol) (key text : String) :
    Except Error Json :=
  match Require.ofText? text with
  | some require => do
    let value ← reader.modules.resolve (symbol.declaration.map Declaration.file) require
    if key = "examples" ∧ value.items?.isNone then throw (.require require.specifier .notArray)
    else return value
  | none => return (Json.parse? text).getD (.string text)

/-- The value of a tag: a tag without text is `true`. -/
def tagValue (reader : AnnotationReader) (symbol : Symbol) (key text : String) :
    Except Error Json :=
  if text = "" then return .bool true else reader.textValue symbol key text

/-- The keyword at the beginning of a text `.sub value`: its name, the name it is emitted under, and
the text of its value. -/
def ledKeyword? (reader : AnnotationReader) (text : String) : Option (String × String × String) :=
  match text.toList with
  | '.' :: rest =>
    let (sub, value) := (splitOnce? ' ' (String.ofList rest)).getD (String.ofList rest, "")
    (reader.keywords.emitted? sub).map fun emitted => (sub, emitted, value)
  | _ => none

/-- The parent and keyword of a tag named `parent.sub`, with the name the keyword is emitted under. -/
def dottedKeyword? (reader : AnnotationReader) (name : String) : Option (String × String) :=
  match splitOnce? '.' name with
  | some (parent, sub) =>
    if sub.toList.contains '.' then none
    else (reader.keywords.emitted? sub).map fun emitted => (parent, emitted)
  | none => none

/-- Enters what one tag says. -/
def addTag (reader : AnnotationReader) (symbol : Symbol) (annotations : Annotations)
    (tag : DocTag) : Except Error Annotations :=
  let text := tag.text.getD ""
  match reader.ledKeyword? text with
  | some (sub, emitted, valueText) => do
    return annotations.nest tag.name emitted (← reader.tagValue symbol sub valueText)
  | none =>
    match reader.dottedKeyword? tag.name with
    | some (parent, emitted) => do
      return annotations.nest parent emitted (← reader.tagValue symbol tag.name text)
    | none =>
      match reader.keywords.emitted? tag.name with
      | some emitted => do
        return annotations.insert emitted (← reader.tagValue symbol tag.name text)
      | none => return annotations.remember tag.name

/-- Enters what tags say, up to the first one that is at fault. -/
def addTags (reader : AnnotationReader) (symbol : Symbol) :
    Annotations → List DocTag → Annotations × Option Error
  | annotations, [] => (annotations, none)
  | annotations, tag :: rest =>
    match reader.addTag symbol annotations tag with
    | .ok next => addTags reader symbol next rest
    | .error error => (annotations, some error)

/-- Enters what the doc comment of a symbol says; later keywords replace earlier ones.  A fault leaves
what was entered before it. -/
def addSymbol (reader : AnnotationReader) (annotations : Annotations) (symbol : Symbol) :
    Annotations × Option Error :=
  let described := match description? symbol with
    | some text => annotations.insert "description" (.string text)
    | none => annotations
  reader.addTags symbol described symbol.tags

/-- The annotations of a symbol, entered after those that are there. -/
def extend (reader : AnnotationReader) (annotations : Annotations) (symbol : Symbol) :
    Except Error Annotations :=
  match reader.addSymbol annotations symbol with
  | (done, none) => .ok done
  | (_, some error) => .error error

/-- The annotations of a symbol alone. -/
def read (reader : AnnotationReader) (symbol : Symbol) : Except Error Annotations :=
  reader.extend {} symbol

end AnnotationReader

end TypeSchema
