import TypeSchema.Log
import TypeSchema.Schema.Naming
import TypeSchema.Schema.Options

/-!
# The context of a call

While the schemas of one call are built, a context remembers what was named, what was promoted to a
definition of its own, and which definitions are still under construction.  A definition under
construction belongs to the one who entered it: entering gives out a token, and only the latest
token of a name can leave it.
-/

set_option autoImplicit false

namespace TypeSchema

/-- Where references point to. -/
inductive ReferenceRoot
  | definitions
  | components
deriving DecidableEq, Repr

/-- The path before the name of a definition. -/
def ReferenceRoot.path : ReferenceRoot → String
  | .definitions => "#/definitions/"
  | .components => "#/components/schemas/"

/-- What is known while the schemas of one call are built. -/
structure Context where
  root : ReferenceRoot
  names : NameRegistry := {}
  /-- The definitions that references point to. -/
  reffed : Dict Definition := []
  /-- The names under construction, each with the token of the latest entry. -/
  guard : Dict Nat := []
  lastToken : Nat := 0
  /-- Properties that may be `undefined`. -/
  absent : List SymbolId := []

namespace Context

/-- A fresh context with definitions that are given. -/
def start (root : ReferenceRoot) (given : Dict Definition) : Context :=
  { root, reffed := given }

/-- The reference to the definition with the name. -/
def refTo (context : Context) (name : String) : Definition :=
  Definition.reference (context.root.path ++ name)

/-- Whether the definition with the name is under construction. -/
def isBuilding (context : Context) (name : String) : Bool :=
  Dict.contains context.guard name

/-- Takes up the construction of a definition and gives out a token. -/
def enter (context : Context) (name : String) : Nat × Context :=
  let token := context.lastToken + 1
  (token, { context with lastToken := token, guard := Dict.insert context.guard name token })

/-- Ends the construction of a definition if the token is the latest one of the name. -/
def leave (context : Context) (name : String) (token : Nat) : Bool × Context :=
  if Dict.get? context.guard name = some token then
    (true, { context with guard := Dict.erase context.guard name })
  else (false, context)

/-- Makes a definition one that references point to. -/
def promote (context : Context) (name : String) (definition : Definition) : Context :=
  { context with reffed := Dict.insert context.reffed name definition }

/-- Whether the definition is one that references point to. -/
def isReffed (context : Context) (name : String) : Bool :=
  Dict.contains context.reffed name

/-- Remembers that a property may be `undefined`. -/
def markAbsent (context : Context) (symbol : SymbolId) : Context :=
  if context.absent.contains symbol then context
  else { context with absent := symbol :: context.absent }

end Context

end TypeSchema
