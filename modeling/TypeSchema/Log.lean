/-!
# The log

Warnings and errors noted while schemas are built.  Each kind of event is a constructor; the words
and the named fields of an event are functions of it.
-/

set_option autoImplicit false

namespace TypeSchema

/-- How serious an event is. -/
inductive LogLevel
  | warning
  | error
deriving DecidableEq, Repr

/-- Something worth telling that did not stop the work, or one of the reasons why it stopped. -/
inductive LogEntry
  /-- A diagnostic of the graph, in words. -/
  | diagnostic (text : String)
  /-- An enum member whose initializer is no literal. -/
  | memberLeftOut (member initializer : String)
  /-- A default value that stood under a type assertion. -/
  | assertedDefault (property initializer : String)
  /-- An initializer that could not be read, and why. -/
  | defaultSkipped (property initializer reason : String)
  /-- A member of an intersection that is `undefined`. -/
  | undefinedMember (member : String)
  /-- A member of an intersection with nothing but a `type` that is not a single name. -/
  | compoundMember (member : String)
  /-- An operation that replaces an earlier one. -/
  | operationReplaced (shape method : String)
deriving DecidableEq, Repr

namespace LogEntry

/-- How serious the event is. -/
def level : LogEntry → LogLevel
  | .diagnostic _ | .undefinedMember _ | .compoundMember _ => .error
  | .memberLeftOut _ _ | .assertedDefault _ _ | .defaultSkipped _ _ _
  | .operationReplaced _ _ => .warning

/-- The event in words. -/
def message : LogEntry → String
  | .diagnostic text => text
  | .memberLeftOut _ _ => "initializer is an expression; member left out of the enum"
  | .assertedDefault _ _ => "default read through a type assertion"
  | .defaultSkipped _ _ reason => "skipping default: " ++ reason
  | .undefinedMember _ => "undefined in an intersection makes no sense"
  | .compoundMember _ => "expected only a simple type"
  | .operationReplaced _ _ => "replaces an operation declared earlier"

/-- What the event is about: names and values. -/
def details : LogEntry → List (String × String)
  | .diagnostic _ => []
  | .memberLeftOut member initializer =>
    [("enum_member", member), ("initializer", initializer)]
  | .assertedDefault property initializer
  | .defaultSkipped property initializer _ =>
    [("property", property), ("initializer", initializer)]
  | .undefinedMember member | .compoundMember member => [("member", member)]
  | .operationReplaced shape method => [("shape", shape), ("method", method)]

end LogEntry

end TypeSchema
