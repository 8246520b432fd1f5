import TypeSchema.Text.Basic
import TypeSchema.Number.Double

/-!
# Reading decimal numerals

Two readers of doubles.  `decimal?` reads the numerals of source text and rounds correctly.
`scaled?` is the cheaper rule of JSON documents: as many leading digits as fit in 64 bits are kept
as an integer, which is then multiplied or divided by a power of ten in double arithmetic; the
result can be a unit in the last place away from the nearest double.
-/

set_option autoImplicit false

namespace TypeSchema.Double

open TypeSchema.Text

/-- The leading ASCII digits and what follows them. -/
def spanDigits (cs : List Char) : List Char × List Char :=
  (cs.takeWhile Char.isDigit, cs.dropWhile Char.isDigit)

/-- The value of a run of digits after what `value` holds. -/
def digitsValue (value : Nat) (digits : List Char) : Nat :=
  digits.foldl (fun n c => n * 10 + (c.toNat - 0x30)) value

/-- An exponent part: nothing, or `e` with an optional sign and at least one digit. -/
def exponent? : List Char → Option Int
  | [] => some 0
  | e :: rest =>
    if e = 'e' ∨ e = 'E' then
      match rest with
      | '-' :: digits => if digits ≠ [] ∧ digits.all Char.isDigit then
          some (-(digitsValue 0 digits : Int)) else none
      | '+' :: digits => if digits ≠ [] ∧ digits.all Char.isDigit then
          some (digitsValue 0 digits : Int) else none
      | digits => if digits ≠ [] ∧ digits.all Char.isDigit then
          some (digitsValue 0 digits : Int) else none
    else none

/-- A decimal numeral without a sign: digits with an optional point anywhere among or beside them,
and an optional exponent. -/
def unsigned? (negative : Bool) (cs : List Char) : Option Float :=
  let (whole, afterWhole) := spanDigits cs
  let (fraction, rest) := match afterWhole with
    | '.' :: r => spanDigits r
    | r => ([], r)
  if whole = [] ∧ fraction = [] then none
  else (exponent? rest).map fun e =>
    ofDecimal negative (digitsValue 0 (whole ++ fraction)) (e - (fraction.length : Int))

/-- A decimal numeral that names a finite double: the nearest one.  Numerals beyond the largest
double name none. -/
def decimal? (cs : List Char) : Option Float :=
  let read := match cs with
    | '-' :: rest => unsigned? true rest
    | '+' :: rest => unsigned? false rest
    | rest => unsigned? false rest
  read.filter isFinite

/-- The greatest number of 64 bits. -/
def maxWord : Nat := UInt64.size - 1

/-- Appends digits to `value` as long as it stays within 64 bits; also the digits left over. -/
def absorb (value : Nat) : List Char → Nat × List Char
  | [] => (value, [])
  | c :: rest =>
    let next := value * 10 + (c.toNat - 0x30)
    if next ≤ maxWord then absorb next rest else (value, c :: rest)

/-- Multiplies or divides by a power of ten in double arithmetic.  Powers beyond `10 ^ 308` are
divided away in steps; a product beyond the largest double is refused. -/
def scale? (x : Float) (exponent : Int) : Option Float :=
  if exponent > 308 then if x == 0.0 then some x else none
  else if exponent ≥ 0 then
    (some (x * Float.ofScientific 1 false exponent.toNat)).filter isFinite
  else if exponent ≥ -308 then some (x / Float.ofScientific 1 false (-exponent).toNat)
  else if x == 0.0 then some x
  else scale? (x / Float.ofScientific 1 false 308) (exponent + 308)
termination_by (-exponent).toNat
decreasing_by omega

/-- `± significand · 10 ^ exponent` by the rule of JSON documents. -/
def scaled? (negative : Bool) (significand : Nat) (exponent : Int) : Option Float :=
  (scale? (Float.ofNat significand) exponent).map fun x => if negative then -x else x

end TypeSchema.Double
