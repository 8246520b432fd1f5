import TypeSchema.Json.Basic

/-!
# Literals

The constants of literal types and enum members: `null`, truth values, numbers and strings.  Lists of
literals are emitted in one fixed order, `Literal.order`: `null` first, then truth values, numbers
and strings, each kind in its own natural order.
-/

set_option autoImplicit false

namespace TypeSchema

/-- A constant. -/
inductive Literal
  | null
  | bool (value : Bool)
  | number (value : Float)
  | string (value : String)
deriving DecidableEq, Inhabited

/-- The kinds of literals, named as the `type` keyword names them. -/
inductive LiteralKind
  | null
  | bool
  | number
  | string
deriving DecidableEq, Repr

/-- The name of the kind under the `type` keyword. -/
def LiteralKind.name : LiteralKind → String
  | .null => "null"
  | .bool => "boolean"
  | .number => "number"
  | .string => "string"

/-- The place of the kind among the kinds. -/
def LiteralKind.rank : LiteralKind → Nat
  | .null => 0
  | .bool => 1
  | .number => 2
  | .string => 3

/-- A number is written as an integer when it is whole and within 64 bits (the double `2 ^ 63` stands
for the greatest such integer); then also minus zero loses its sign. -/
def Number.ofDouble (x : Float) : Number :=
  match Double.whole? x with
  | some n =>
    let bound : Int := (UInt64.size / 2 : Nat)
    if -bound ≤ n ∧ n ≤ bound then .integer (min n (bound - 1)) else .double x
  | none => .double x

namespace Literal

/-- The kind of the literal. -/
def kind : Literal → LiteralKind
  | .null => .null
  | .bool _ => .bool
  | .number _ => .number
  | .string _ => .string

/-- The literal as JSON. -/
def toJson : Literal → Json
  | .null => .null
  | .bool b => .bool b
  | .number x => .number (Number.ofDouble x)
  | .string s => .string s

/-- The literal a scalar stands for; arrays and objects are no literals. -/
def ofJson? : Json → Option Literal
  | .null => some .null
  | .bool b => some (.bool b)
  | .number n => some (.number n.toDouble)
  | .string s => some (.string s)
  | .array _ => none
  | .object _ => none

/-- The order in which literals are emitted.  Strings compare by code points. -/
def order : Literal → Literal → Ordering
  | .bool a, .bool b => compare a.toNat b.toNat
  | .number a, .number b => compare (Double.rank a) (Double.rank b)
  | .string a, .string b => compare (a.toList.map Char.toNat) (b.toList.map Char.toNat)
  | a, b => compare a.kind.rank b.kind.rank

/-- The literals in emission order; equal ones keep their order. -/
def sort (values : List Literal) : List Literal :=
  values.mergeSort fun a b => (order a b).isLE

/-- Whether the literal has the value of one of the list. -/
def among (values : List Literal) (value : Literal) : Bool :=
  values.any fun other => order other value == .eq

end Literal

end TypeSchema
