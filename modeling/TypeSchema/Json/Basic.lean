import TypeSchema.Dict
import TypeSchema.Number.Double

/-!
# JSON values

Free-form JSON: what tags, module documents, schemas and the parts of a document hold.  An object is
a dictionary in insertion order, because the order of keys is part of what is emitted.
-/

set_option autoImplicit false

namespace TypeSchema

/-- A JSON number: an integer written without fraction and exponent that fits into 64 bits (signed
or not), or a double. -/
inductive Number
  | integer (n : Int)
  | double (x : Float)
deriving DecidableEq, Inhabited

/-- The double nearest to the number. -/
def Number.toDouble : Number → Float
  | .integer n => Double.ofDecimal (decide (n < 0)) n.natAbs 0
  | .double x => x

/-- A JSON value.  Objects list their entries in order; values read from text never repeat a key. -/
inductive Json
  | null
  | bool (value : Bool)
  | number (value : Number)
  | string (value : String)
  | array (items : List Json)
  | object (fields : List (String × Json))
deriving Inhabited

namespace Json

/-- The text of a string. -/
def text? : Json → Option String
  | .string s => some s
  | _ => none

/-- The items of an array. -/
def items? : Json → Option (List Json)
  | .array items => some items
  | _ => none

/-- The entries of an object. -/
def fields? : Json → Option (Dict Json)
  | .object fields => some fields
  | _ => none

/-- The value an object has under the key. -/
def get? (value : Json) (key : String) : Option Json :=
  value.fields?.bind fun fields => Dict.get? fields key

theorem eq_string_of_text? {value : Json} {text : String} (h : value.text? = some text) :
    value = .string text := by
  cases value with
  | string s => exact congrArg string (Option.some.inj h)
  | _ => cases h

theorem eq_array_of_items? {value : Json} {items : List Json} (h : value.items? = some items) :
    value = .array items := by
  cases value with
  | array values => exact congrArg array (Option.some.inj h)
  | _ => cases h

theorem eq_object_of_fields? {value : Json} {fields : Dict Json} (h : value.fields? = some fields) :
    value = .object fields := by
  cases value with
  | object entries => exact congrArg object (Option.some.inj h)
  | _ => cases h

theorem exists_fields_of_get? {value inner : Json} {key : String} (h : value.get? key = some inner) :
    ∃ fields, value = .object fields ∧ Dict.get? fields key = some inner := by
  obtain ⟨fields, hfields, hget⟩ := Option.bind_eq_some_iff.1 h
  exact ⟨fields, eq_object_of_fields? hfields, hget⟩

/-- A natural number. -/
def ofNat (n : Nat) : Json :=
  .number (.integer n)

/-- Strings as an array. -/
def strings (texts : List String) : Json :=
  .array (texts.map .string)

end Json

end TypeSchema
