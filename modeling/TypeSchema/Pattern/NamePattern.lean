import TypeSchema.Pattern.Reader

/-!
# Patterns for names

Declarations are selected by patterns: a text between slashes is a regular expression that has to
match somewhere in the name, any other text is the name itself.
-/

set_option autoImplicit false

namespace TypeSchema

open Pattern

/-- Selects declarations by name. -/
inductive NamePattern
  | exact (name : String)
  | regex (expression : String) (compiled : Regex)

namespace NamePattern

/-- The expression between two slashes; it may not be empty. -/
def expression? (text : String) : Option String :=
  match text.toList with
  | '/' :: rest =>
    if rest.getLast? = some '/' ∧ rest.dropLast ≠ [] then some (String.ofList rest.dropLast)
    else none
  | _ => none

/-- Reads a pattern; an invalid regular expression is the error. -/
def ofText (text : String) : Except String NamePattern :=
  match expression? text with
  | none => .ok (.exact text)
  | some expression =>
    match Regex.ofText? expression with
    | some compiled => .ok (.regex expression compiled)
    | none => .error expression

/-- Whether the pattern selects the name. -/
def selects : NamePattern → String → Bool
  | .exact wanted, name => wanted == name
  | .regex _ compiled, name => compiled.isMatch name

end NamePattern

end TypeSchema
