import TypeSchema.Files.Disk
import TypeSchema.Graph.Validity
import TypeSchema.Json.Decoder
import TypeSchema.OpenApi.Method

/-!
# Errors

Everything that can stop the work, by cause.  The words of an error are a function of its cause.
-/

set_option autoImplicit false

namespace TypeSchema

/-- Why a value named by `require(...)` could not be had. -/
inductive RequireFault
  /-- The module file could not be read. -/
  | unreadable (path : String) (fault : FileFault)
  /-- The module file is not a JSON document. -/
  | unparsable (path : String) (fault : DecodeFault)
  /-- The module has no such export. -/
  | undefined (name : String)
  /-- A value for `examples` has to be an array. -/
  | notArray
deriving DecidableEq, Repr

/-- Why a type does not describe an operation. -/
inductive ShapeFault
  /-- The member is not there. -/
  | missing (member : String)
  /-- The member has to be a string literal. -/
  | notStringLiteral (member : String)
  | unknownMethod (text : String)
  /-- The member has to be an object type. -/
  | notObject (member : String)
  | noResponses
  /-- The type of a response has to be an object type. -/
  | responseNotObject (status : String)
  | securityNotArray
deriving DecidableEq, Repr

/-- Everything that can stop the work. -/
inductive Error
  /-- Problems the type checker reported. -/
  | diagnostics (reports : List Diagnostic)
  /-- A type no schema can describe, with its printed form. -/
  | unsupportedType (printed : String) (id : TypeId)
  /-- A type whose schema would have to contain itself without end. -/
  | endlessType (id : TypeId)
  | shape (name : String) (fault : ShapeFault)
  | invalidStatusCode (name status : String)
  | require (specifier : String) (fault : RequireFault)
  | graph (fault : GraphFault)
  /-- A lookup in the graph that found nothing. -/
  | missing (what : Missing)
  | json (file : String) (fault : DecodeFault)
  | file (path : String) (fault : FileFault)
  /-- An invalid regular expression. -/
  | pattern (expression : String)
deriving DecidableEq

/-- A file that could not be read, in words. -/
def unreadableText (path : String) (fault : FileFault) : String :=
  "failed to read " ++ path ++ ": " ++ fault.text

/-- A file that could not be decoded, in words. -/
def unparsableText (path : String) (fault : DecodeFault) : String :=
  match fault with
  | .malformed => "failed to parse JSON (" ++ path ++ "): malformed text"
  | .mismatch place => "failed to parse JSON (" ++ path ++ ") at " ++ place.text ++ ": wrong shape"

/-- The fault in words. -/
def RequireFault.message : RequireFault → String
  | .unreadable path fault => "module couldn't be loaded: " ++ unreadableText path fault
  | .unparsable path fault => "module couldn't be loaded: " ++ unparsableText path fault
  | .undefined name => "`" ++ name ++ "` is undefined"
  | .notArray => "value for `examples` isn't an array"

/-- The fault in words. -/
def ShapeFault.message : ShapeFault → String
  | .missing member => "missing `" ++ member ++ "`"
  | .notStringLiteral member => "`" ++ member ++ "` must be a string literal"
  | .unknownMethod text => HttpMethod.unknownMessage text
  | .notObject member => "`" ++ member ++ "` must be an object type"
  | .noResponses => "`responses` must be an object with at least one status code"
  | .responseNotObject status => "response `" ++ status ++ "` must be an object type"
  | .securityNotArray => "`security` must be an array of objects"

/-- The error in words. -/
def Error.message : Error → String
  | .diagnostics reports =>
    "the type graph reports " ++ toString reports.length ++
      " error(s); fix them or run with `ignoreErrors`:\n" ++
      String.intercalate "\n" (reports.map Diagnostic.text)
  | .unsupportedType printed _ => "unsupported type: " ++ printed
  | .endlessType id => "endless type: " ++ id.text
  | .shape name fault => "api shape `" ++ name ++ "`: " ++ fault.message
  | .invalidStatusCode name status =>
    "api shape `" ++ name ++ "`: `" ++ status ++ "` is not a valid HTTP status code"
  | .require specifier fault => "require(" ++ specifier ++ "): " ++ fault.message
  | .graph fault => "malformed type graph: " ++ fault.message
  | .missing what => "malformed type graph: " ++ what.text
  | .json path fault => unparsableText path fault
  | .file path fault => unreadableText path fault
  | .pattern expression => "invalid type name pattern: " ++ expression

/-- Reads the text of a file as a document. -/
def decodeFile {α : Type} (decode : Decoder α) (file text : String) : Except Error α :=
  (decodeText decode text).mapError (Error.json file)

/-- Reads a file, which may have failed, as a document. -/
def decodeRead {α : Type} (decode : Decoder α) (file : String)
    (contents : Except FileFault String) : Except Error α :=
  match contents with
  | .ok text => decodeFile decode file text
  | .error fault => .error (.file file fault)

end TypeSchema
