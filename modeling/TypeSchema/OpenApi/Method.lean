/-!
# HTTP methods

The methods an operation may have.  A shape names its method in upper case; a document has it in
lower case, as a key.
-/

set_option autoImplicit false

namespace TypeSchema

/-- A method an operation may have. -/
inductive HttpMethod
  | get
  | post
  | put
  | patch
  | delete
  | head
  | options
  | trace
deriving DecidableEq, Repr, Inhabited

namespace HttpMethod

/-- The key of the method in a document. -/
def key : HttpMethod → String
  | .get => "get"
  | .post => "post"
  | .put => "put"
  | .patch => "patch"
  | .delete => "delete"
  | .head => "head"
  | .options => "options"
  | .trace => "trace"

/-- The name of the method. -/
def name : HttpMethod → String
  | .get => "GET"
  | .post => "POST"
  | .put => "PUT"
  | .patch => "PATCH"
  | .delete => "DELETE"
  | .head => "HEAD"
  | .options => "OPTIONS"
  | .trace => "TRACE"

/-- All methods. -/
def all : List HttpMethod :=
  [.get, .post, .put, .patch, .delete, .head, .options, .trace]

/-- The method with the name; only the upper-case spelling is one. -/
def ofName? (text : String) : Option HttpMethod :=
  all.find? fun method => method.name == text

/-- What is said of a text that names no method. -/
def unknownMessage (text : String) : String :=
  "unknown HTTP method: " ++ text

theorem ofName?_name (method : HttpMethod) : ofName? method.name = some method := by
  cases method <;> decide

end HttpMethod

end TypeSchema
