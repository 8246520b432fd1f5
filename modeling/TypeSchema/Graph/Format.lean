import TypeSchema.Graph.Validity
import TypeSchema.Json.Decoder

/-!
# The interchange format of type graphs

Graphs are exchanged as JSON.  Writing leaves out what is absent or empty where a reader would supply
it again; reading supplies presets, ignores fields it does not know, and names the place of what it
refuses.  A type is one flat object that holds its structure beside its names.  The structure can
only be read once the whole object is known, so whatever is wrong in it is reported at the type.
-/

set_option autoImplicit false

namespace TypeSchema

open Decoder

/-! ## Positions and literals -/

namespace TypeId

def decode : Decoder TypeId := Decoder.map TypeId.mk word32

def toJson (id : TypeId) : Json := Json.ofNat id.index.toNat

end TypeId

namespace SymbolId

def decode : Decoder SymbolId := Decoder.map SymbolId.mk word32

def toJson (id : SymbolId) : Json := Json.ofNat id.index.toNat

end SymbolId

/-- A literal as a scalar; its numbers are doubles. -/
def Literal.decode : Decoder Literal := fun levels draft =>
  match draft.json? levels with
  | none => .error .malformed
  | some value =>
    match Literal.ofJson? value with
    | some literal => .ok literal
    | none => .error (.mismatch [])

/-- A literal as it is exchanged: numbers always as doubles. -/
def Literal.toExchange : Literal → Json
  | .null => .null
  | .bool b => .bool b
  | .number x => .number (.double x)
  | .string s => .string s

/-- An entry that is left out when there is no value. -/
def optionalEntry (key : String) (value : Option Json) : List (String × Json) :=
  value.toList.map fun v => (key, v)

/-- An entry that is left out when the list is empty. -/
def listEntry (key : String) (values : List Json) : List (String × Json) :=
  if values.isEmpty then [] else [(key, .array values)]

/-- A value or `null`. -/
def nullable (value : Option Json) : Json :=
  value.getD .null

/-! ## Symbols -/

def DocPartKind.names : List (String × DocPartKind) :=
  [("text", .text), ("link", .link), ("linkText", .linkText)]

def DocPartKind.name : DocPartKind → String
  | .text => "text"
  | .link => "link"
  | .linkText => "linkText"

namespace DocPart

def decode : Decoder DocPart := record ⟨.text, ""⟩
  [ .preset "kind" (choice DocPartKind.names) fun r v => { r with kind := v },
    .required "text" string fun r v => { r with text := v } ]

def toJson (part : DocPart) : Json :=
  .object [("kind", .string part.kind.name), ("text", .string part.text)]

end DocPart

namespace DocTag

def decode : Decoder DocTag := record ⟨"", none⟩
  [ .required "name" string fun r v => { r with name := v },
    .preset "text" (optional string) fun r v => { r with text := v } ]

def toJson (tag : DocTag) : Json :=
  .object [("name", .string tag.name), ("text", nullable (tag.text.map .string))]

end DocTag

def DeclarationKind.names : List (String × DeclarationKind) :=
  [ ("class", .classType), ("interface", .interface), ("typeAlias", .typeAlias), ("enum", .enum),
    ("enumMember", .enumMember), ("typeLiteral", .typeLiteral), ("mappedType", .mappedType),
    ("property", .property), ("other", .other) ]

def DeclarationKind.name : DeclarationKind → String
  | .classType => "class"
  | .interface => "interface"
  | .typeAlias => "typeAlias"
  | .enum => "enum"
  | .enumMember => "enumMember"
  | .typeLiteral => "typeLiteral"
  | .mappedType => "mappedType"
  | .property => "property"
  | .other => "other"

namespace Declaration

def decode : Decoder Declaration := record ⟨"", 0, .other, false⟩
  [ .required "file" string fun r v => { r with file := v },
    .required "position" word32 fun r v => { r with position := v },
    .required "kind" (choice DeclarationKind.names) fun r v => { r with kind := v },
    .preset "abstract" flag fun r v => { r with isAbstract := v } ]

def toJson (d : Declaration) : Json :=
  .object [ ("file", .string d.file), ("position", Json.ofNat d.position.toNat),
    ("kind", .string d.kind.name), ("abstract", .bool d.isAbstract) ]

end Declaration

namespace Symbol

def decode : Decoder Symbol := record { name := "" }
  [ .required "name" string fun r v => { r with name := v },
    .preset "fullyQualifiedName" (optional string) fun r v => { r with qualifiedName := v },
    .preset "documentation" (list DocPart.decode) fun r v => { r with documentation := v },
    .preset "tags" (list DocTag.decode) fun r v => { r with tags := v },
    .preset "declaration" (optional Declaration.decode) fun r v => { r with declaration := v },
    .preset "fromDefaultLib" flag fun r v => { r with isBuiltin := v } ]

def toJson (symbol : Symbol) : Json :=
  .object ([("name", .string symbol.name)] ++
    optionalEntry "fullyQualifiedName" (symbol.qualifiedName.map .string) ++
    listEntry "documentation" (symbol.documentation.map DocPart.toJson) ++
    listEntry "tags" (symbol.tags.map DocTag.toJson) ++
    optionalEntry "declaration" (symbol.declaration.map Declaration.toJson) ++
    [("fromDefaultLib", .bool symbol.isBuiltin)])

end Symbol

/-! ## Types -/

namespace EnumMember

def decode : Decoder EnumMember := record ⟨"", none, none⟩
  [ .required "name" string fun r v => { r with name := v },
    .preset "value" (optional Literal.decode) fun r v => { r with value := v },
    .preset "initializer" (optional string) fun r v => { r with initializer := v } ]

def toJson (member : EnumMember) : Json :=
  .object ([("name", .string member.name)] ++
    optionalEntry "value" (member.value.map Literal.toExchange) ++
    optionalEntry "initializer" (member.initializer.map .string))

end EnumMember

namespace Property

def decode : Decoder Property := record { symbol := ⟨0⟩, type := ⟨0⟩ }
  [ .required "symbol" SymbolId.decode fun r v => { r with symbol := v },
    .required "type" TypeId.decode fun r v => { r with type := v },
    .preset "optional" flag fun r v => { r with isOptional := v },
    .preset "method" flag fun r v => { r with isMethod := v },
    .preset "private" flag fun r v => { r with isPrivate := v },
    .preset "referencedSymbol" (optional SymbolId.decode) fun r v => { r with referenced := v },
    .preset "initializer" (optional string) fun r v => { r with initializer := v } ]

def toJson (p : Property) : Json :=
  .object ([ ("symbol", p.symbol.toJson), ("type", p.type.toJson),
    ("optional", .bool p.isOptional), ("method", .bool p.isMethod),
    ("private", .bool p.isPrivate) ] ++
    optionalEntry "referencedSymbol" (p.referenced.map SymbolId.toJson) ++
    optionalEntry "initializer" (p.initializer.map .string))

end Property

namespace TypeKind

/-- A structure whose only field is a list of types. -/
def decodeMembers (key : String) (build : List TypeId → TypeKind) : Decoder TypeKind :=
  Decoder.map build (record [] [.required key (list TypeId.decode) fun _ v => v])

/-- A structure whose only field is its value. -/
def decodeValue {α : Type} (blank : α) (decode : Decoder α) (build : α → TypeKind) :
    Decoder TypeKind :=
  Decoder.map build (record blank [.required "value" decode fun _ v => v])

/-- A structure without fields. -/
def decodeBare (kind : TypeKind) : Decoder TypeKind :=
  Decoder.map (fun _ => kind) (record () [])

/-- The fields of a tuple type. -/
def decodeTuple : Decoder TypeKind :=
  Decoder.map (fun (elements, minLength, hasRest) => .tuple elements minLength hasRest)
    (record (([], 0, false) : List TypeId × Nat × Bool)
      [ .required "elements" (list TypeId.decode) fun (_, m, h) v => (v, m, h),
        .preset "minLength" (naturalBelow UInt64.size) fun (e, _, h) v => (e, v, h),
        .preset "hasRest" flag fun (e, m, _) v => (e, m, v) ])

/-- The fields of an object type. -/
def decodeObject : Decoder TypeKind :=
  Decoder.map (fun (properties, anonymous, index) => .object properties anonymous index)
    (record (([], false, none) : List Property × Bool × Option TypeId)
      [ .preset "properties" (list Property.decode) fun (_, a, i) v => (v, a, i),
        .preset "anonymous" flag fun (p, _, i) v => (p, v, i),
        .preset "index" (optional TypeId.decode) fun (p, a, _) v => (p, a, v) ])

/-- The fields of an enum type. -/
def decodeEnum : Decoder TypeKind :=
  Decoder.map .enum
    (record [] [.required "members" (list EnumMember.decode) fun _ v => v])

/-- The structures by name, each with the decoder of its fields. -/
def decoders : List (String × Decoder TypeKind) :=
  [ ("string", decodeBare .string),
    ("number", decodeBare .number),
    ("boolean", decodeBare .boolean),
    ("null", decodeBare .null),
    ("undefined", decodeBare .undefined),
    ("void", decodeBare .void),
    ("any", decodeBare .any),
    ("unknown", decodeBare .unknown),
    ("never", decodeBare .never),
    ("nonPrimitive", decodeBare .nonPrimitive),
    ("stringLiteral", decodeValue "" Decoder.string .stringLiteral),
    ("numberLiteral", decodeValue 0.0 Decoder.double .numberLiteral),
    ("booleanLiteral", decodeValue false Decoder.flag .booleanLiteral),
    ("enumLiteral", decodeValue "" Decoder.string .enumLiteral),
    ("union", decodeMembers "types" .union),
    ("intersection", decodeMembers "types" .intersection),
    ("tuple", decodeTuple),
    ("object", decodeObject),
    ("enum", decodeEnum),
    ("typeParameter", decodeBare .typeParameter) ]

/-- Runs the decoder of the fields of a structure.  The fields were read once already, so a fault in
them can only be a wrong shape, and it is reported at the structure. -/
def decodeFields (decode : Decoder TypeKind) (fields : Draft) : Except DecodeFault TypeKind :=
  (decode Draft.maxLevels fields).mapError fun _ => .mismatch []

/-- The structure among the entries of a type: exactly one entry `kind` names it (by its name, or by
its position in the list of structures), and its fields are among the other entries. -/
def ofEntries (entries : List (String × Draft)) : Except DecodeFault TypeKind :=
  let others := Draft.object
    ((entries.filter fun entry => entry.1 != "kind").map fun (key, draft) => (some key, draft)) true
  match entries.filter fun entry => entry.1 == "kind" with
  | [(_, .string (some name))] =>
    match Dict.get? decoders name with
    | some decode => decodeFields decode others
    | none => .error (.mismatch [])
  | [(_, .number (some (.integer n)))] =>
    match if 0 ≤ n then decoders[n.toNat]? else none with
    | some (_, decode) => decodeFields decode others
    | none => .error (.mismatch [])
  | _ => .error (.mismatch [])

/-- A structure on its own.  Its `kind` is looked at when it is met, its fields at the end. -/
def decode : Decoder TypeKind
  | 0, .object _ _ => .error .malformed
  | 0, .array _ _ => .error .malformed
  | levels + 1, .object drafts closed => do
    let field : RecordField (Option (Decoder TypeKind)) :=
      .required "kind" (decoderNamed decoders) fun _ v => some v
    let (found, others) ← fromObject none [field] true (levels + 1) (.object drafts closed)
    match found with
    | some decodeThis =>
      decodeFields decodeThis (.object (others.map fun (key, draft) => (some key, draft)) true)
    | none => throw (.mismatch [])
  | levels + 1, .array (first :: rest) closed => do
    let decodeThis ← inside (.index 0) (decoderNamed decoders levels first)
    if closed && Draft.itemsWhole rest && (Draft.jsonItems? levels rest).isSome then
      decodeFields decodeThis (.array rest true)
    else throw .malformed
  | _ + 1, .array [] closed => .error (if closed then .mismatch [] else .malformed)
  | _, draft => .error (refuse draft)
where
  /-- The decoder with the name. -/
  decoderNamed (choices : List (String × Decoder TypeKind)) : Decoder (Decoder TypeKind) :=
    fun levels draft => do
      let name ← Decoder.string levels draft
      match Dict.get? choices name with
      | some value => return value
      | none => throw (.mismatch [])

/-- The entry that names a structure. -/
def named (name : String) : String × Json :=
  ("kind", .string name)

/-- The entries of a structure. -/
def entries : TypeKind → List (String × Json)
  | .string => [named "string"]
  | .number => [named "number"]
  | .boolean => [named "boolean"]
  | .null => [named "null"]
  | .undefined => [named "undefined"]
  | .void => [named "void"]
  | .any => [named "any"]
  | .unknown => [named "unknown"]
  | .never => [named "never"]
  | .nonPrimitive => [named "nonPrimitive"]
  | .stringLiteral value => [named "stringLiteral", ("value", .string value)]
  | .numberLiteral value => [named "numberLiteral", ("value", .number (.double value))]
  | .booleanLiteral value => [named "booleanLiteral", ("value", .bool value)]
  | .enumLiteral value => [named "enumLiteral", ("value", .string value)]
  | .union members => [named "union", ("types", .array (members.map TypeId.toJson))]
  | .intersection members => [named "intersection", ("types", .array (members.map TypeId.toJson))]
  | .tuple elements minLength hasRest =>
    [ named "tuple", ("elements", .array (elements.map TypeId.toJson)),
      ("minLength", Json.ofNat minLength), ("hasRest", .bool hasRest) ]
  | .object properties anonymous index =>
    [ named "object", ("properties", .array (properties.map Property.toJson)),
      ("anonymous", .bool anonymous) ] ++ optionalEntry "index" (index.map TypeId.toJson)
  | .enum members => [named "enum", ("members", .array (members.map EnumMember.toJson))]
  | .typeParameter => [named "typeParameter"]

end TypeKind

namespace TypeNode

def decode : Decoder TypeNode := fun levels draft => do
  let (node, others) ← fromObject { kind := .never }
    [ .preset "symbol" (optional SymbolId.decode) fun r v => { r with symbol := v },
      .preset "aliasSymbol" (optional SymbolId.decode) fun r v => { r with aliasSymbol := v },
      .preset "aliasArguments" (list TypeId.decode) fun r v => { r with aliasArguments := v },
      .preset "numberIndex" (optional TypeId.decode) fun r v => { r with numberIndex := v },
      .preset "baseTypes" (list TypeId.decode) fun r v => { r with baseTypes := v } ]
    true levels draft
  return { (node : TypeNode) with kind := ← TypeKind.ofEntries others }

def toJson (node : TypeNode) : Json :=
  .object (node.kind.entries ++
    optionalEntry "symbol" (node.symbol.map SymbolId.toJson) ++
    optionalEntry "aliasSymbol" (node.aliasSymbol.map SymbolId.toJson) ++
    listEntry "aliasArguments" (node.aliasArguments.map TypeId.toJson) ++
    optionalEntry "numberIndex" (node.numberIndex.map TypeId.toJson) ++
    listEntry "baseTypes" (node.baseTypes.map TypeId.toJson))

end TypeNode

/-! ## Diagnostics and graphs -/

namespace Diagnostic

def decode : Decoder Diagnostic := record { message := "" }
  [ .required "message" string fun r v => { r with message := v },
    .preset "file" (optional string) fun r v => { r with file := v },
    .preset "line" (optional word32) fun r v => { r with line := v },
    .preset "column" (optional word32) fun r v => { r with column := v } ]

def toJson (d : Diagnostic) : Json :=
  .object [ ("message", .string d.message), ("file", nullable (d.file.map .string)),
    ("line", nullable (d.line.map fun n => Json.ofNat n.toNat)),
    ("column", nullable (d.column.map fun n => Json.ofNat n.toNat)) ]

end Diagnostic

namespace TypeGraph

def decode : Decoder TypeGraph := record {}
  [ .preset "types" (list TypeNode.decode) fun r v => { r with types := v.toArray },
    .preset "symbols" (list Symbol.decode) fun r v => { r with symbols := v.toArray },
    .preset "declarations" (dict TypeId.decode) fun r v => { r with declarations := v },
    .preset "diagnostics" (list Diagnostic.decode) fun r v => { r with diagnostics := v } ]

def toJson (graph : TypeGraph) : Json :=
  .object
    [ ("types", .array (graph.types.toList.map TypeNode.toJson)),
      ("symbols", .array (graph.symbols.toList.map Symbol.toJson)),
      ("declarations", .object (graph.declarations.map fun (name, id) => (name, id.toJson))),
      ("diagnostics", .array (graph.diagnostics.map Diagnostic.toJson)) ]

end TypeGraph

end TypeSchema
