import TypeSchema.Pattern.Folding
import TypeSchema.Text.Basic

/-!
# Regular expressions

The structure of regular expressions and what they match.  Matching is defined on sets of positions:
an expression takes the positions a match may begin at to the positions it may end at.  There are no
captures and no preferences among matches, since all that is asked is whether there is a match.
-/

set_option autoImplicit false

namespace TypeSchema.Pattern

open TypeSchema.Text

/-- A set of characters. -/
inductive CharSet
  | ranges (ranges : Ranges)
  | union (a b : CharSet)
  | inter (a b : CharSet)
  | complement (a : CharSet)
  /-- The characters that differ at most in case from one of the set. -/
  | folded (a : CharSet)

namespace CharSet

/-- The set of one character. -/
def single (c : Char) : CharSet :=
  .ranges #[(c.toNat, c.toNat)]

/-- The set without characters. -/
def empty : CharSet :=
  .ranges #[]

/-- Whether the code point is in the set. -/
def hasCode : CharSet → Nat → Bool
  | .ranges r, code => r.hasCode code
  | .union a b, code => a.hasCode code || b.hasCode code
  | .inter a b, code => a.hasCode code && b.hasCode code
  | .complement a, code => !a.hasCode code
  | .folded a, code => (foldOrbit code).any a.hasCode

/-- Whether the character is in the set. -/
def contains (set : CharSet) (c : Char) : Bool :=
  set.hasCode c.toNat

end CharSet

/-- A condition on the place between two characters. -/
inductive Look
  | textStart
  | textEnd
  /-- After a line feed, or at the start. -/
  | lineStart
  /-- Before a line feed, or at the end. -/
  | lineEnd
  /-- After the end of a line, which may also be a carriage return alone or before a line feed. -/
  | anyLineStart
  | anyLineEnd
  | wordBoundary (unicode : Bool)
  | noWordBoundary (unicode : Bool)
  | wordStart (unicode : Bool)
  | wordEnd (unicode : Bool)
  /-- No word character stands before. -/
  | wordStartHalf (unicode : Bool)
  /-- No word character stands after. -/
  | wordEndHalf (unicode : Bool)

/-- A regular expression. -/
inductive Regex
  | empty
  | one (chars : CharSet)
  | look (condition : Look)
  | seq (a b : Regex)
  | alt (a b : Regex)
  /-- At least `least` times, and at most `most` times if that is given. -/
  | repeat (a : Regex) (least : Nat) (most : Option Nat)

/-- Whether a character stands there that is part of a word. -/
def isWordAt (unicode : Bool) : Option Char → Bool
  | none => false
  | some c => if unicode then isWordCharacter c else c.isAlphanum || c == '_'

/-- Whether the condition holds between the two characters. -/
def Look.holds (look : Look) (before after : Option Char) : Bool :=
  match look with
  | .textStart => before.isNone
  | .textEnd => after.isNone
  | .lineStart => before.isNone || before == some '\n'
  | .lineEnd => after.isNone || after == some '\n'
  | .anyLineStart => before.isNone || before == some '\n' ||
      (before == some '\r' && after != some '\n')
  | .anyLineEnd => after.isNone || after == some '\r' ||
      (after == some '\n' && before != some '\r')
  | .wordBoundary u => isWordAt u before != isWordAt u after
  | .noWordBoundary u => isWordAt u before == isWordAt u after
  | .wordStart u => !isWordAt u before && isWordAt u after
  | .wordEnd u => isWordAt u before && !isWordAt u after
  | .wordStartHalf u => !isWordAt u before
  | .wordEndHalf u => !isWordAt u after

/-- A set of positions in a text, one flag for each position from the start to the end. -/
abbrev Positions := Array Bool

namespace Positions

/-- All positions that are in one of the sets. -/
def union (a b : Positions) : Positions :=
  a.zipWith (· || ·) b

/-- Whether no position is in the set. -/
def isEmpty (a : Positions) : Bool :=
  !a.any id

end Positions

/-- The positions after a character of the set that stands at one of the positions. -/
def afterSet (text : Array Char) (set : CharSet) (starts : Positions) : Positions :=
  Array.ofFn fun i : Fin (text.size + 1) =>
    decide (0 < i.val) && starts.getD (i.val - 1) false &&
      (text[i.val - 1]?).any set.contains

/-- The positions at which the condition holds. -/
def atLook (text : Array Char) (look : Look) (starts : Positions) : Positions :=
  Array.ofFn fun i : Fin (text.size + 1) =>
    starts.getD i.val false &&
      look.holds (if i.val = 0 then none else text[i.val - 1]?) text[i.val]?

/-- Applies a step a fixed number of times, but no more once there is no position left or a step
changes nothing. -/
def stepExactly (step : Positions → Positions) : Nat → Positions → Positions
  | 0, starts => starts
  | n + 1, starts =>
    let next := step starts
    if next.isEmpty || next == starts then next else stepExactly step n next

/-- All positions reached by applying a step at most so many times. -/
def stepUpTo (step : Positions → Positions) : Nat → Positions → Positions
  | 0, reached => reached
  | n + 1, reached =>
    let next := reached.union (step reached)
    if next == reached then reached else stepUpTo step n next

namespace Regex

/-- The positions a match may end at that begins at one of the positions.  A repetition without an
upper bound reaches every position it can in as many rounds as there are positions. -/
def ends (text : Array Char) : Regex → Positions → Positions
  | .empty, starts => starts
  | .one chars, starts => afterSet text chars starts
  | .look condition, starts => atLook text condition starts
  | .seq a b, starts => ends text b (ends text a starts)
  | .alt a b, starts => (ends text a starts).union (ends text b starts)
  | .repeat a least most, starts =>
    let first := stepExactly (ends text a) least starts
    stepUpTo (ends text a) ((most.map (· - least)).getD (text.size + 1)) first

/-- Whether the expression matches somewhere in the text. -/
def isMatch (regex : Regex) (text : String) : Bool :=
  let cs := text.toList.toArray
  !(regex.ends cs (Array.replicate (cs.size + 1) true)).isEmpty

end Regex

end TypeSchema.Pattern
