import TypeSchema.Number.Double

/-!
# The fewest digits that read back

A double stands for every real number that rounds to it: an interval whose ends belong to it
exactly when its significand is even.  A decimal in that interval reads back as the double.
`shortest` finds the decimal with the fewest significant digits in the interval, and among those
the one nearest to the double.  If some decimal with `n` digits lies in the interval, then so does
one of the two neighbours of the double on the grid of `n`-digit decimals, so it is enough to try
those two for `n = 1, 2, …`; seventeen digits always suffice.
-/

set_option autoImplicit false

namespace TypeSchema.Double

/-- Which neighbour is taken when both are equally near: the one with the even last digit, or the
greater one. -/
inductive Tie
  | even
  | up
deriving DecidableEq, Repr

/-- A positive decimal `digits · 10 ^ exponent`. -/
structure Decimal where
  digits : Nat
  exponent : Int
deriving DecidableEq, Repr

/-- The interval of reals that round to a double, over a common denominator: `low`, `value` and
`high` are numerators over `denominator`. -/
structure Interval where
  low : Nat
  value : Nat
  high : Nat
  denominator : Nat
  closed : Bool

/-- The rounding interval of a positive finite double.  Below a power of two the doubles are twice
as dense, so there the lower end is half as far away. -/
def Parts.interval (p : Parts) : Interval :=
  let lowGap := if p.significand = Nat.pow 2 52 ∧ -1074 < p.exponent then 1 else 2
  let up := Nat.pow 2 p.exponent.toNat
  let down := Nat.pow 2 (-p.exponent).toNat
  { low := (4 * p.significand - lowGap) * up
    value := 4 * p.significand * up
    high := (4 * p.significand + 2) * up
    denominator := 4 * down
    closed := p.significand % 2 = 0 }

/-- Whether `digits · 10 ^ exponent` lies in the interval. -/
def Interval.holds (i : Interval) (d : Decimal) : Bool :=
  let left := d.digits * Nat.pow 10 d.exponent.toNat * i.denominator
  let scale := Nat.pow 10 (-d.exponent).toNat
  if i.closed then decide (i.low * scale ≤ left) && decide (left ≤ i.high * scale)
  else decide (i.low * scale < left) && decide (left < i.high * scale)

/-- The greatest multiple of `10 ^ exponent` that is at most the value. -/
def Interval.floorAt (i : Interval) (exponent : Int) : Nat :=
  i.value * Nat.pow 10 (-exponent).toNat / (i.denominator * Nat.pow 10 exponent.toNat)

/-- The neighbour of the value on the grid of multiples of `10 ^ exponent` that lies in the
interval; of two, the nearer one. -/
def Interval.neighbour? (i : Interval) (tie : Tie) (exponent : Int) : Option Decimal :=
  let n := i.floorAt exponent
  let below : Decimal := ⟨n, exponent⟩
  let above : Decimal := ⟨n + 1, exponent⟩
  match i.holds below, i.holds above with
  | false, false => none
  | true, false => some below
  | false, true => some above
  | true, true =>
    let twice := 2 * i.value * Nat.pow 10 (-exponent).toNat
    let middle := (2 * n + 1) * Nat.pow 10 exponent.toNat * i.denominator
    if twice < middle then some below
    else if middle < twice then some above
    else match tie with
      | .even => if n % 2 = 0 then some below else some above
      | .up => some above

/-- The decimal exponent `e` with `10 ^ e ≤ value < 10 ^ (e + 1)`, searched downwards from
`start`. -/
def Interval.leading (i : Interval) : Nat → Int → Int
  | 0, start => start
  | fuel + 1, start =>
    if i.floorAt start = 0 then Interval.leading i fuel (start - 1) else start

/-- Tries the grids from `count` digits on. -/
def Interval.search (i : Interval) (tie : Tie) (leading : Int) : Nat → Nat → Decimal
  | 0, count => ⟨i.floorAt (leading - count + 1), leading - count + 1⟩
  | fuel + 1, count =>
    match i.neighbour? tie (leading - count + 1) with
    | some d => d
    | none => Interval.search i tie leading fuel (count + 1)

/-- Drops zeros at the end of the digits. -/
def Decimal.stripZeros : Nat → Decimal → Decimal
  | 0, d => d
  | fuel + 1, d =>
    if d.digits ≠ 0 ∧ d.digits % 10 = 0 then
      Decimal.stripZeros fuel ⟨d.digits / 10, d.exponent + 1⟩
    else d

/-- The decimal with the fewest digits that reads back as the (positive) double, nearest to it among
those. -/
def Parts.shortest (p : Parts) (tie : Tie) : Decimal :=
  let i := p.interval
  let bound : Int := (Nat.toDigits 10 (i.value / i.denominator)).length
  let leading := i.leading 400 bound
  (i.search tie leading 20 1).stripZeros 20

end TypeSchema.Double
