/-!
# Sets of characters as ranges of code points

A set of characters is an array of closed ranges.  The character properties in
`TypeSchema.Text.Tables` and the classes of patterns (`TypeSchema.Pattern`) are such sets.
-/

set_option autoImplicit false

namespace TypeSchema.Text

/-- A set of characters: closed ranges `(low, high)` of code points. -/
abbrev Ranges := Array (Nat × Nat)

/-- Whether the code point lies in one of the ranges. -/
def Ranges.hasCode (ranges : Ranges) (code : Nat) : Bool :=
  ranges.any fun range => decide (range.1 ≤ code) && decide (code ≤ range.2)

/-- Whether the character lies in one of the ranges. -/
def Ranges.contains (ranges : Ranges) (c : Char) : Bool :=
  ranges.hasCode c.toNat

end TypeSchema.Text
