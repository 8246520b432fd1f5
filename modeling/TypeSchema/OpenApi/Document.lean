import TypeSchema.OpenApi.Method
import TypeSchema.Schema.Options

/-!
# OpenAPI documents

The parts of a document.  Most of it is passed through from what the caller says of the document as a
whole; paths with their operations, and the schemas among the components, are what the graph
contributes.  Parts that may hold entries of their own choosing keep them in order as free-form JSON.
-/

set_option autoImplicit false

namespace TypeSchema.OpenApi

/-- What the document describes. -/
structure Info where
  title : String := "OpenAPI specification"
  version : String := "1.0.0"
  description : Option String := none
  others : Dict Json := []

/-- A link to documentation elsewhere. -/
structure ExternalDocs where
  url : String
  description : Option String := none

/-- A tag that groups operations. -/
structure Tag where
  name : String
  description : Option String := none
  externalDocs : Option ExternalDocs := none

/-- A server that offers the operations. -/
structure Server where
  url : String
  description : Option String := none
  /-- What stands for the variables in the address. -/
  settings : Option (Dict Json) := none

/-- Security schemes that are needed together, each with its scopes. -/
abbrev SecurityRequirement := Dict (List String)

/-- What references in the document point to. -/
structure Components where
  schemas : Dict Definition := []
  others : Dict Json := []

/-- What the caller says of the document as a whole. -/
structure Metadata where
  info : Option Info := none
  tags : List Tag := []
  servers : List Server := []
  security : List SecurityRequirement := []
  externalDocs : Option ExternalDocs := none
  components : Option Components := none

/-- Where a parameter is sent. -/
inductive ParameterLocation
  | path
  | query
deriving DecidableEq, Repr

/-- A parameter of an operation. -/
structure Parameter where
  name : String
  location : ParameterLocation
  isRequired : Bool
  description : Option Json := none
  schema : Definition

/-- What is sent as one type of content. -/
structure MediaType where
  schema : Definition

/-- What is sent with a request, by type of content. -/
structure RequestBody where
  annotations : Dict Json := []
  content : Dict MediaType

/-- What is answered under one status; without content if nothing is. -/
structure Response where
  description : Json
  annotations : Dict Json := []
  content : Option (Dict MediaType) := none

/-- An operation. -/
structure Operation where
  operationId : Option String := none
  tags : Option (List String) := none
  annotations : Dict Json := []
  parameters : List Parameter := []
  requestBody : Option RequestBody := none
  responses : Dict Response := []
  security : Option (List SecurityRequirement) := none

/-- The operations at one path, by the key of their method. -/
abbrev PathItem := Dict Operation

/-- A document. -/
structure Document where
  version : OpenApiVersion
  info : Info
  servers : List Server := []
  paths : Dict PathItem := []
  components : Components
  security : List SecurityRequirement := []
  tags : List Tag := []
  externalDocs : Option ExternalDocs := none

/-- The document without operations that carries what the caller says. -/
def Document.ofMetadata (version : OpenApiVersion) (metadata : Metadata) : Document :=
  { version
    info := metadata.info.getD {}
    servers := metadata.servers
    components := metadata.components.getD {}
    security := metadata.security
    tags := metadata.tags
    externalDocs := metadata.externalDocs }

end TypeSchema.OpenApi
