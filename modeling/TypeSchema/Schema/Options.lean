import TypeSchema.Graph.Format
import TypeSchema.Schema.Annotations

/-!
# Options

The choices a caller has: whether types become references, how unions, numbers and `null` are
written, which keywords are recognized beyond the fixed ones, and what an OpenAPI document is made
for.  Every option has a preset, so a file of options names only those that differ.
-/

set_option autoImplicit false

namespace TypeSchema

open Decoder

/-- The keyword that gathers the branches of a union. -/
inductive UnionKeyword
  | anyOf
  | oneOf
deriving DecidableEq, Repr, Inhabited

/-- What a number is taken for when nothing more is known. -/
inductive NumberType
  | number
  | integer
deriving DecidableEq, Repr, Inhabited

/-- The version of OpenAPI a document is written for. -/
inductive OpenApiVersion
  | v30
  | v31
deriving DecidableEq, Repr, Inhabited

namespace UnionKeyword

def name : UnionKeyword → String
  | .anyOf => "anyOf"
  | .oneOf => "oneOf"

def names : List (String × UnionKeyword) :=
  [("anyOf", .anyOf), ("oneOf", .oneOf)]

end UnionKeyword

namespace NumberType

def name : NumberType → String
  | .number => "number"
  | .integer => "integer"

def names : List (String × NumberType) :=
  [("number", .number), ("integer", .integer)]

end NumberType

namespace OpenApiVersion

def text : OpenApiVersion → String
  | .v30 => "3.0.3"
  | .v31 => "3.1.0"

def names : List (String × OpenApiVersion) :=
  [("3.0.3", .v30), ("3.1.0", .v31)]

def decode : Decoder OpenApiVersion := choice names

end OpenApiVersion

/-- The choices a caller has. -/
structure Options where
  /-- Whether named types become references wherever they can. -/
  reference : Bool := false
  /-- Whether definitions and properties carry their name as `title`. -/
  titles : Bool := false
  ignoreRequired : Bool := false
  /-- Whether to go on in spite of the problems a graph reports. -/
  ignoreErrors : Bool := false
  /-- Whether names carry a hash of the place of their declaration. -/
  uniqueNames : Bool := false
  unionKeyword : UnionKeyword := .anyOf
  numberType : NumberType := .number
  /-- Whether `null` is written with the keyword `nullable`; by default the version decides. -/
  nullableKeyword : Option Bool := none
  contentType : String := "*/*"
  customKeywords : List String := []
  /-- What is put before the names of custom keywords. -/
  customLead : String := "x-"
  /-- Whether literal members of a shape that have no other meaning become entries of the
  operation. -/
  customOperationEntries : Bool := false
  version : OpenApiVersion := .v30
deriving DecidableEq

namespace Options

/-- Whether `null` is written with the keyword `nullable`, and not as a type of its own. -/
def usesNullableKeyword (options : Options) : Bool :=
  options.nullableKeyword.getD (options.version == .v30)

/-- The keywords that are recognized. -/
def keywords (options : Options) : Keywords :=
  ⟨options.customKeywords, options.customLead⟩

def decode : Decoder Options := record {}
  [ .preset "ref" flag fun r v => { r with reference := v },
    .preset "titles" flag fun r v => { r with titles := v },
    .preset "ignoreRequired" flag fun r v => { r with ignoreRequired := v },
    .preset "ignoreErrors" flag fun r v => { r with ignoreErrors := v },
    .preset "uniqueNames" flag fun r v => { r with uniqueNames := v },
    .preset "defaultUnionModifier" (choice UnionKeyword.names)
      fun r v => { r with unionKeyword := v },
    .preset "defaultNumberType" (choice NumberType.names) fun r v => { r with numberType := v },
    .preset "nullableKeyword" (optional flag) fun r v => { r with nullableKeyword := v },
    .preset "defaultContentType" string fun r v => { r with contentType := v },
    .preset "customKeywords" (list string) fun r v => { r with customKeywords := v },
    .preset "customKeywordPrefix" string fun r v => { r with customLead := v },
    .preset "customOperationProperties" flag fun r v => { r with customOperationEntries := v },
    .preset "openapiVersion" OpenApiVersion.decode fun r v => { r with version := v } ]

def toJson (o : Options) : Json :=
  .object
    [ ("ref", .bool o.reference), ("titles", .bool o.titles),
      ("ignoreRequired", .bool o.ignoreRequired), ("ignoreErrors", .bool o.ignoreErrors),
      ("uniqueNames", .bool o.uniqueNames),
      ("defaultUnionModifier", .string o.unionKeyword.name),
      ("defaultNumberType", .string o.numberType.name),
      ("nullableKeyword", nullable (o.nullableKeyword.map .bool)),
      ("defaultContentType", .string o.contentType),
      ("customKeywords", Json.strings o.customKeywords),
      ("customKeywordPrefix", .string o.customLead),
      ("customOperationProperties", .bool o.customOperationEntries),
      ("openapiVersion", .string o.version.text) ]

end Options

end TypeSchema
