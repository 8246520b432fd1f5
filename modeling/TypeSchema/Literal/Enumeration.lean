import TypeSchema.Literal.Reader
import TypeSchema.Schema.Definition
import TypeSchema.Log

/-!
# Enumerations

The schema of an enum: the constants of its members in emission order under `enum`, and the kinds
of the constants under `type` in the order in which they first occur.  A member without a constant
takes the value of its initializer if that is a plain scalar, or a string or truth value under a type
assertion; otherwise the member is left out and a warning says so.
-/

set_option autoImplicit false

namespace TypeSchema

/-- A member of an enum. -/
structure EnumMember where
  name : String
  value : Option Literal
  initializer : Option String
deriving DecidableEq, Inhabited

namespace EnumMember

/-- The value an initializer gives its member. -/
def fromInitializer? (source : String) : Option Literal :=
  match Literal.readInitializer source with
  | .ok ⟨.string s, true⟩ => some (.string s)
  | .ok ⟨.bool b, true⟩ => some (.bool b)
  | .ok ⟨_, true⟩ => none
  | .ok ⟨value, false⟩ => Literal.ofJson? value
  | .error _ => none

/-- The value of the member: its constant, else what its initializer gives. -/
def value? (member : EnumMember) : Option Literal :=
  match member.value, member.initializer with
  | some constant, _ => some constant
  | none, some source => fromInitializer? source
  | none, none => none

/-- Whether the initializer had to be read and gave no value. -/
def isSkipped (member : EnumMember) : Bool :=
  member.value.isNone && member.initializer.isSome && member.value?.isNone

end EnumMember

namespace Enumeration

/-- The values of the members that have one. -/
def values (members : List EnumMember) : List Literal :=
  members.filterMap EnumMember.value?

/-- The kinds of the values, each where it first occurs. -/
def kinds (values : List Literal) : List LiteralKind :=
  values.foldl (fun found v => if found.contains v.kind then found else found ++ [v.kind]) []

/-- The warnings about members that are left out. -/
def warnings (enumName : String) (members : List EnumMember) : List LogEntry :=
  members.filterMap fun member =>
    if member.isSkipped then
      some (.memberLeftOut (enumName ++ "." ++ member.name) (member.initializer.getD ""))
    else none

/-- Enters the kinds under `type`: the one kind, or the list of them. -/
def insertKinds (definition : Definition) : List LiteralKind → Definition
  | [] => definition
  | [kind] => definition.insert "type" (.string kind.name)
  | many => definition.insert "type" (Json.strings (many.map LiteralKind.name))

/-- Enters `type` and `enum`; members without a value leave no trace. -/
def define (members : List EnumMember) (definition : Definition) : Definition :=
  let found := values members
  let typed := insertKinds definition (kinds found)
  if found.isEmpty then typed
  else typed.insert "enum" (.array ((Literal.sort found).map Literal.toJson))

end Enumeration

end TypeSchema
