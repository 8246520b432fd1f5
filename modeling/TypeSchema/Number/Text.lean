import TypeSchema.Number.Shortest

/-!
# Numbers as text

Doubles are written with the fewest digits that read back, in one of two layouts: the one of JSON
documents, which always shows that the number is a double and turns to an exponent for very large
and very small numbers, and the plain one of printed types, which never uses an exponent.
-/

set_option autoImplicit false

namespace TypeSchema.Double

/-- How the digits of a double are laid out. -/
structure Layout where
  /-- Which of two equally near decimals is taken. -/
  tie : Tie
  /-- The decimal exponents of the leading digit that are written positionally. -/
  positional : Int → Bool
  /-- What ends a number without a fraction. -/
  wholeEnd : String
  notANumber : String
  infinity : String

/-- JSON documents: positional from `1e-5` up to below `1e16`, always with a point; else an exponent
with its sign.  JSON has no infinities and no NaN; `null` stands for them. -/
def Layout.json : Layout where
  tie := .even
  positional e := decide (-5 ≤ e) && decide (e < 16)
  wholeEnd := ".0"
  notANumber := "null"
  infinity := "null"

/-- Printed types: always positional, and nothing after a number without a fraction. -/
def Layout.plain : Layout where
  tie := .up
  positional _ := true
  wholeEnd := ""
  notANumber := "NaN"
  infinity := "inf"

/-- A run of zeros. -/
def zeros (n : Nat) : List Char :=
  List.replicate n '0'

/-- The decimal in the layout. -/
def Decimal.text (layout : Layout) (d : Decimal) : String :=
  let digits := Nat.toDigits 10 d.digits
  let leading := d.exponent + (digits.length : Int) - 1
  if layout.positional leading then
    if d.exponent ≥ 0 then
      String.ofList (digits ++ zeros d.exponent.toNat) ++ layout.wholeEnd
    else if leading ≥ 0 then
      let before := leading.toNat + 1
      String.ofList (digits.take before ++ '.' :: digits.drop before)
    else
      String.ofList ('0' :: '.' :: zeros (-leading - 1).toNat ++ digits)
  else
    let mantissa := match digits with
      | [one] => [one]
      | first :: rest => first :: '.' :: rest
      | [] => []
    let exponent := (if leading < 0 then '-' else '+') :: Nat.toDigits 10 leading.natAbs
    String.ofList (mantissa ++ 'e' :: exponent)

/-- A double in the layout. -/
def text (layout : Layout) (x : Float) : String :=
  match parts? x with
  | some p =>
    let sign := if p.negative then "-" else ""
    if p.significand = 0 then sign ++ "0" ++ layout.wholeEnd
    else sign ++ (p.shortest layout.tie).text layout
  | none =>
    let bits := x.toBits.toNat
    if bits % Nat.pow 2 52 ≠ 0 then layout.notANumber
    else if bits / Nat.pow 2 63 = 1 && layout.infinity = "inf" then "-inf"
    else layout.infinity

/-- A number as printed types show it: whole numbers below `10 ^ 15` as an integer (so negative zero
loses its sign), all others plainly. -/
def typeText (x : Float) : String :=
  match whole? x with
  | some n => if n.natAbs < Nat.pow 10 15 then toString n else text .plain x
  | none => text .plain x

end TypeSchema.Double
