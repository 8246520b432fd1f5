import TypeSchema.OpenApi.Document

/-!
# OpenAPI documents as JSON

Writing a part puts its own entries in a fixed order and leaves out what is absent; entries of the
part's own choosing stand where the part keeps them.  Reading accepts entries in any order.
-/

set_option autoImplicit false

namespace TypeSchema

open Decoder

/-- A definition: any object. -/
def Definition.decode : Decoder Definition := dict any

/-- A dictionary as an object. -/
def Dict.toJson {α : Type} (write : α → Json) (entries : Dict α) : Json :=
  .object (entries.map fun entry => (entry.1, write entry.2))

namespace OpenApi

/-- A text that is left out when there is none. -/
def optionalText (key : String) (value : Option String) : List (String × Json) :=
  optionalEntry key (value.map .string)

namespace Info

def decode : Decoder Info := openRecord { title := "", version := "" }
  [ .required "title" string fun r v => { r with title := v },
    .required "version" string fun r v => { r with version := v },
    .nullable "description" string fun r v => { r with description := v } ]
  fun r others => { r with others }

def toJson (info : Info) : Json :=
  .object ([("title", .string info.title), ("version", .string info.version)] ++
    optionalText "description" info.description ++ info.others)

end Info

namespace ExternalDocs

def decode : Decoder ExternalDocs := record { url := "" }
  [ .required "url" string fun r v => { r with url := v },
    .nullable "description" string fun r v => { r with description := v } ]

def toJson (docs : ExternalDocs) : Json :=
  .object ([("url", .string docs.url)] ++ optionalText "description" docs.description)

end ExternalDocs

namespace Tag

def decode : Decoder Tag := record { name := "" }
  [ .required "name" string fun r v => { r with name := v },
    .nullable "description" string fun r v => { r with description := v },
    .nullable "externalDocs" ExternalDocs.decode fun r v => { r with externalDocs := v } ]

def toJson (tag : Tag) : Json :=
  .object ([("name", .string tag.name)] ++ optionalText "description" tag.description ++
    optionalEntry "externalDocs" (tag.externalDocs.map ExternalDocs.toJson))

end Tag

namespace Server

def decode : Decoder Server := record { url := "" }
  [ .required "url" string fun r v => { r with url := v },
    .nullable "description" string fun r v => { r with description := v },
    .nullable "variables" (dict any) fun r v => { r with settings := v } ]

def toJson (server : Server) : Json :=
  .object ([("url", .string server.url)] ++ optionalText "description" server.description ++
    optionalEntry "variables" (server.settings.map .object))

end Server

namespace SecurityRequirement

def decode : Decoder SecurityRequirement := dict (list string)

def toJson (requirement : SecurityRequirement) : Json :=
  Dict.toJson Json.strings requirement

end SecurityRequirement

namespace Components

def decode : Decoder Components := openRecord {}
  [.preset "schemas" (dict Definition.decode) fun r v => { r with schemas := v }]
  fun r others => { r with others }

def toJson (components : Components) : Json :=
  .object (("schemas", Dict.toJson Definition.toJson components.schemas) :: components.others)

end Components

def Metadata.decode : Decoder Metadata := record {}
  [ .preset "info" (optional Info.decode) fun r v => { r with info := v },
    .preset "tags" (list Tag.decode) fun r v => { r with tags := v },
    .preset "servers" (list Server.decode) fun r v => { r with servers := v },
    .preset "security" (list SecurityRequirement.decode) fun r v => { r with security := v },
    .preset "externalDocs" (optional ExternalDocs.decode) fun r v => { r with externalDocs := v },
    .preset "components" (optional Components.decode) fun r v => { r with components := v } ]

def Metadata.toJson (metadata : Metadata) : Json :=
  .object
    [ ("info", nullable (metadata.info.map Info.toJson)),
      ("tags", .array (metadata.tags.map Tag.toJson)),
      ("servers", .array (metadata.servers.map Server.toJson)),
      ("security", .array (metadata.security.map SecurityRequirement.toJson)),
      ("externalDocs", nullable (metadata.externalDocs.map ExternalDocs.toJson)),
      ("components", nullable (metadata.components.map Components.toJson)) ]

/-! ## Operations -/

namespace ParameterLocation

def name : ParameterLocation → String
  | .path => "path"
  | .query => "query"

def names : List (String × ParameterLocation) :=
  [("path", .path), ("query", .query)]

end ParameterLocation

namespace Parameter

def decode : Decoder Parameter :=
  record { name := "", location := .path, isRequired := false, schema := Definition.empty }
    [ .required "name" string fun r v => { r with name := v },
      .required "in" (choice ParameterLocation.names) fun r v => { r with location := v },
      .required "required" flag fun r v => { r with isRequired := v },
      .nullable "description" any fun r v => { r with description := v },
      .required "schema" Definition.decode fun r v => { r with schema := v } ]

def toJson (p : Parameter) : Json :=
  .object ([ ("name", .string p.name), ("in", .string p.location.name),
    ("required", .bool p.isRequired) ] ++ optionalEntry "description" p.description ++
    [("schema", p.schema.toJson)])

end Parameter

namespace MediaType

def decode : Decoder MediaType := record ⟨Definition.empty⟩
  [.required "schema" Definition.decode fun _ v => ⟨v⟩]

def toJson (media : MediaType) : Json :=
  .object [("schema", media.schema.toJson)]

end MediaType

namespace RequestBody

def decode : Decoder RequestBody := openRecord { content := [] }
  [.required "content" (dict MediaType.decode) fun r v => { r with content := v }]
  fun r annotations => { r with annotations }

def toJson (body : RequestBody) : Json :=
  .object (body.annotations ++ [("content", Dict.toJson MediaType.toJson body.content)])

end RequestBody

namespace Response

def decode : Decoder Response := openRecord { description := .null }
  [ .required "description" any fun r v => { r with description := v },
    .nullable "content" (dict MediaType.decode) fun r v => { r with content := v } ]
  fun r annotations => { r with annotations }

def toJson (response : Response) : Json :=
  .object (("description", response.description) :: response.annotations ++
    optionalEntry "content" (response.content.map (Dict.toJson MediaType.toJson)))

end Response

namespace Operation

def decode : Decoder Operation := openRecord {}
  [ .nullable "operationId" string fun r v => { r with operationId := v },
    .nullable "tags" (list string) fun r v => { r with tags := v },
    .preset "parameters" (list Parameter.decode) fun r v => { r with parameters := v },
    .nullable "requestBody" RequestBody.decode fun r v => { r with requestBody := v },
    .required "responses" (dict Response.decode) fun r v => { r with responses := v },
    .nullable "security" (list SecurityRequirement.decode) fun r v => { r with security := v } ]
  fun r annotations => { r with annotations }

def toJson (operation : Operation) : Json :=
  .object (optionalText "operationId" operation.operationId ++
    optionalEntry "tags" (operation.tags.map Json.strings) ++
    operation.annotations ++
    listEntry "parameters" (operation.parameters.map Parameter.toJson) ++
    optionalEntry "requestBody" (operation.requestBody.map RequestBody.toJson) ++
    [("responses", Dict.toJson Response.toJson operation.responses)] ++
    optionalEntry "security" (operation.security.map fun requirements =>
      .array (requirements.map SecurityRequirement.toJson)))

end Operation

/-! ## Documents -/

namespace Document

def decode : Decoder Document := record (Document.ofMetadata .v30 {})
  [ .required "openapi" OpenApiVersion.decode fun r v => { r with version := v },
    .required "info" Info.decode fun r v => { r with info := v },
    .preset "servers" (list Server.decode) fun r v => { r with servers := v },
    .required "paths" (dict (dict Operation.decode)) fun r v => { r with paths := v },
    .required "components" Components.decode fun r v => { r with components := v },
    .preset "security" (list SecurityRequirement.decode) fun r v => { r with security := v },
    .preset "tags" (list Tag.decode) fun r v => { r with tags := v },
    .nullable "externalDocs" ExternalDocs.decode fun r v => { r with externalDocs := v } ]

def toJson (document : Document) : Json :=
  .object ([("openapi", .string document.version.text), ("info", document.info.toJson)] ++
    listEntry "servers" (document.servers.map Server.toJson) ++
    [ ("paths", Dict.toJson (Dict.toJson Operation.toJson) document.paths),
      ("components", document.components.toJson) ] ++
    listEntry "security" (document.security.map SecurityRequirement.toJson) ++
    listEntry "tags" (document.tags.map Tag.toJson) ++
    optionalEntry "externalDocs" (document.externalDocs.map ExternalDocs.toJson))

end Document

end OpenApi

end TypeSchema
