/-!
# Doubles as exact numbers

A finite double is `± significand · 2 ^ exponent` with natural `significand`.  This file takes a
double apart that way and answers the questions that need its exact value: which integer it is, and
where it stands in numeric order.  All of it is integer arithmetic, so nothing here is rounded.
-/

set_option autoImplicit false

namespace TypeSchema.Double

/-- A finite double taken apart: `± significand · 2 ^ exponent`. -/
structure Parts where
  negative : Bool
  significand : Nat
  exponent : Int
deriving DecidableEq, Repr

/-- The parts of a finite double; infinities and NaN have none.  The significand of a normal number
carries its leading bit. -/
def parts? (x : Float) : Option Parts :=
  let bits : Nat := x.toBits.toNat
  let fraction : Nat := bits % Nat.pow 2 52
  let biased : Nat := bits / Nat.pow 2 52 % 2048
  let negative := decide (bits / Nat.pow 2 63 = 1)
  if biased = 2047 then none
  else if biased = 0 then some ⟨negative, fraction, -1074⟩
  else some ⟨negative, fraction + Nat.pow 2 52, (biased : Int) - 1075⟩

/-- Neither infinite nor NaN. -/
def isFinite (x : Float) : Bool :=
  (parts? x).isSome

/-- The magnitude in units of `2 ^ (-1074)`, the smallest positive double. -/
def Parts.units (p : Parts) : Nat :=
  p.significand * Nat.pow 2 (p.exponent + 1074).toNat

/-- The place of a double in numeric order: a finite double counts the smallest positive doubles it
is made of, both zeros stand at 0, the infinities outside all finite ones, and NaN last. -/
def rank (x : Float) : Int :=
  match parts? x with
  | some p => if p.negative then -(p.units : Int) else (p.units : Int)
  | none =>
    let bits := x.toBits.toNat
    if bits % Nat.pow 2 52 ≠ 0 then Nat.pow 2 2200
    else if bits / Nat.pow 2 63 = 1 then -(Nat.pow 2 2150 : Int) else Nat.pow 2 2150

/-- The integer a double is equal to, if it is one. -/
def whole? (x : Float) : Option Int :=
  match parts? x with
  | none => none
  | some p =>
    if p.units % Nat.pow 2 1074 = 0 then
      let n : Int := (p.units / Nat.pow 2 1074 : Nat)
      some (if p.negative then -n else n)
    else none

/-- The double nearest to `± significand · 10 ^ exponent`, ties to even; infinite beyond the largest
double.  The two bounds keep the powers of ten small where the answer is known. -/
def ofDecimal (negative : Bool) (significand : Nat) (exponent : Int) : Float :=
  let digits : Int := ((Nat.toDigits 10 significand).length : Nat)
  let magnitude : Float :=
    if significand = 0 then 0.0
    else if digits + exponent > 310 then Float.ofBits 0x7ff0000000000000
    else if digits + exponent < -330 then 0.0
    else if exponent < 0 then Float.ofScientific significand true exponent.natAbs
    else Float.ofScientific significand false exponent.natAbs
  if negative then -magnitude else magnitude

end TypeSchema.Double
