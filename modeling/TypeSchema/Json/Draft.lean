import TypeSchema.Json.Basic
import TypeSchema.Number.Reading

/-!
# JSON text, read as far as it goes

A document of a known shape is read from left to right, and the first fault met on the way decides
how it is refused: a value of the wrong shape that stands before a missing bracket wins over the
bracket.  So reading is split in two.  `Draft.read` turns text into a tree that records where the
text stops being JSON; the decoders of `TypeSchema.Json.Decoder` walk the tree in reading order.

Some faults are only faults for a reader that looks at the value: a number beyond the doubles, an
escape that names no character, too many levels.  The tree keeps the first two as values that are
not there, and the third is left to the readers.
-/

set_option autoImplicit false

namespace TypeSchema

open TypeSchema.Text

/-- JSON text, read as far as it goes.  In a draft that is not `closed` the text broke off, or went
wrong, before the closing bracket. -/
inductive Draft
  | null
  | bool (value : Bool)
  /-- `none`: the number is beyond the doubles. -/
  | number (value : Option Number)
  /-- `none`: an escape of the string names no character. -/
  | string (value : Option String)
  | array (items : List Draft) (closed : Bool)
  /-- The entries as they are written, repeated keys included. -/
  | object (fields : List (Option String × Draft)) (closed : Bool)
  /-- Here the text is not JSON. -/
  | broken
deriving Inhabited

namespace Draft

/-- Blanks between the tokens of JSON. -/
def isSpace (c : Char) : Bool :=
  c == ' ' || c == '\n' || c == '\t' || c == '\r'

/-- Skips blanks. -/
def skipSpace (cs : List Char) : List Char :=
  cs.dropWhile isSpace

/-! ## Numbers -/

/-- The value of an integer literal: a word of 64 bits, signed if there is a minus; what does not
fit, and minus zero, are doubles. -/
def integerNumber (negative : Bool) (n : Nat) : Number :=
  if negative then
    if n = 0 ∨ n > UInt64.size / 2 then .double (-(Float.ofNat n)) else .integer (-(n : Int))
  else .integer n

/-- What a number literal of these parts is worth: whole digits, fraction digits and exponent. -/
def numberOf (negative : Bool) (whole : List Char) (fraction : Option (List Char))
    (exponent : Option Int) : Option Number :=
  let (kept, dropped) := Double.absorb 0 whole
  match fraction, exponent with
  | none, none =>
    if dropped = [] then some (integerNumber negative kept)
    else (Double.scaled? negative kept dropped.length).map .double
  | _, _ =>
    let digits := fraction.getD []
    let (significand, rest) := Double.absorb kept digits
    let shift : Int := (dropped.length : Int) - ((digits.length - rest.length : Nat) : Int)
    (Double.scaled? negative significand (shift + exponent.getD 0)).map .double

/-- An exponent after its `e`: an optional sign and at least one digit. -/
def readExponent (cs : List Char) : Option (Int × List Char) :=
  let (negative, unsigned) := match cs with
    | '-' :: r => (true, r)
    | '+' :: r => (false, r)
    | r => (false, r)
  let (digits, rest) := Double.spanDigits unsigned
  if digits = [] then none
  else
    let n : Int := Double.digitsValue 0 digits
    some (if negative then -n else n, rest)

/-- The exponent part, if there is one. -/
def readOptionalExponent : List Char → Option (Option Int × List Char)
  | [] => some (none, [])
  | c :: rest =>
    if c = 'e' ∨ c = 'E' then (readExponent rest).map fun (e, r) => (some e, r)
    else some (none, c :: rest)

/-- A number literal.  The whole part has no needless leading zero, and a point has digits on both
sides. -/
def readNumber (cs : List Char) : Option (Option Number × List Char) :=
  let (negative, unsigned) := match cs with
    | '-' :: r => (true, r)
    | r => (false, r)
  let (whole, afterWhole) := Double.spanDigits unsigned
  match whole with
  | [] => none
  | first :: more =>
    if first = '0' ∧ more ≠ [] then none
    else match afterWhole with
      | '.' :: r =>
        let (digits, afterFraction) := Double.spanDigits r
        if digits = [] then none
        else (readOptionalExponent afterFraction).map fun (e, rest) =>
          (numberOf negative whole (some digits) e, rest)
      | r => (readOptionalExponent r).map fun (e, rest) => (numberOf negative whole none e, rest)

/-! ## Strings -/

/-- The value of four hexadecimal digits. -/
def hexCode? (a b c d : Char) : Option Nat :=
  numeral? 16 [a, b, c, d]

/-- The character a one-letter escape stands for. -/
def shortEscape? (c : Char) : Option Char :=
  if c = '\x22' ∨ c = '\\' ∨ c = '/' then some c
  else if c = 'b' then some '\x08'
  else if c = 'f' then some '\x0c'
  else if c = 'n' then some '\n'
  else if c = 'r' then some '\r'
  else if c = 't' then some '\t'
  else none

/-- The characters of a string of code points, where two halves of a surrogate pair stand for one
character; a half alone stands for none. -/
def joinHalves : List Nat → Option (List Char)
  | [] => some []
  | [code] => (character? code).map ([·])
  | high :: low :: rest =>
    if 0xd800 ≤ high ∧ high < 0xdc00 ∧ 0xdc00 ≤ low ∧ low < 0xe000 then do
      let c ← character? (0x10000 + (high - 0xd800) * 0x400 + (low - 0xdc00))
      let cs ← joinHalves rest
      return c :: cs
    else do
      let c ← character? high
      let cs ← joinHalves (low :: rest)
      return c :: cs

/-- The code points of a string after its opening quote, and the text after its closing one.  A
control character or an unknown escape is not JSON. -/
def readCodes : List Char → Option (List Nat × List Char)
  | [] => none
  | '\x22' :: rest => some ([], rest)
  | '\\' :: 'u' :: a :: b :: c :: d :: rest => do
    let code ← hexCode? a b c d
    let (codes, after) ← readCodes rest
    return (code :: codes, after)
  | '\\' :: c :: rest => do
    let letter ← shortEscape? c
    let (codes, after) ← readCodes rest
    return (letter.toNat :: codes, after)
  | c :: rest =>
    if c.toNat < 0x20 ∨ c = '\\' then none
    else do
      let (codes, after) ← readCodes rest
      return (c.toNat :: codes, after)

/-- A string after its opening quote.  It has no value when an escape names half of a surrogate pair
without the other half. -/
def readString (cs : List Char) : Option (Option String × List Char) :=
  (readCodes cs).map fun (codes, rest) => ((joinHalves codes).map String.ofList, rest)

/-! ## Values -/

/-- Reads the rest of a word such as `null` after its first letter. -/
def readWord (value : Draft) (word : List Char) (cs : List Char) : Draft × Option (List Char) :=
  if word.isPrefixOf cs then (value, some (cs.drop word.length)) else (.broken, none)

mutual

/-- Reads one value and gives the text after it, or nothing if the text went wrong inside. -/
def readValue : Nat → List Char → Draft × Option (List Char)
  | 0, _ => (.broken, none)
  | fuel + 1, cs =>
    match skipSpace cs with
    | [] => (.broken, none)
    | c :: rest =>
      if c = 'n' then readWord .null ['u', 'l', 'l'] rest
      else if c = 't' then readWord (.bool true) ['r', 'u', 'e'] rest
      else if c = 'f' then readWord (.bool false) ['a', 'l', 's', 'e'] rest
      else if c = '\x22' then
        match readString rest with
        | some (s, after) => (.string s, some after)
        | none => (.broken, none)
      else if c = '[' then
        match skipSpace rest with
        | ']' :: after => (.array [] true, some after)
        | inner =>
          let (items, after) := readItems fuel inner
          (.array items after.isSome, after)
      else if c = '\x7b' then
        match skipSpace rest with
        | '\x7d' :: after => (.object [] true, some after)
        | inner =>
          let (fields, after) := readFields fuel inner
          (.object fields after.isSome, after)
      else if c = '-' ∨ c.isDigit then
        match readNumber (c :: rest) with
        | some (n, after) => (.number n, some after)
        | none => (.broken, none)
      else (.broken, none)

/-- Reads items up to the closing bracket. -/
def readItems : Nat → List Char → List Draft × Option (List Char)
  | 0, _ => ([], none)
  | fuel + 1, cs =>
    match readValue fuel cs with
    | (item, none) => ([item], none)
    | (item, some rest) =>
      match skipSpace rest with
      | ']' :: after => ([item], some after)
      | ',' :: more =>
        match skipSpace more with
        | ']' :: _ => ([item], none)
        | next =>
          let (items, after) := readItems fuel next
          (item :: items, after)
      | _ => ([item], none)

/-- Reads entries up to the closing brace. -/
def readFields : Nat → List Char → List (Option String × Draft) × Option (List Char)
  | 0, _ => ([], none)
  | fuel + 1, cs =>
    match cs with
    | '\x22' :: afterQuote =>
      match readString afterQuote with
      | none => ([], none)
      | some (key, rest) =>
        match skipSpace rest with
        | ':' :: afterColon =>
          match readValue fuel afterColon with
          | (value, none) => ([(key, value)], none)
          | (value, some more) =>
            match skipSpace more with
            | '\x7d' :: after => ([(key, value)], some after)
            | ',' :: next =>
              let (fields, after) := readFields fuel (skipSpace next)
              ((key, value) :: fields, after)
            | _ => ([(key, value)], none)
        | _ => ([(key, .broken)], none)
    | _ => ([], none)

end

/-- Reads the value a text begins with, and gives what follows it. -/
def read (text : String) : Draft × Option (List Char) :=
  let cs := text.toList
  readValue (2 * cs.length + 2) cs

/-! ## Drafts that are whole -/

mutual

/-- The draft is JSON to its end.  This is all that is asked of a value nobody looks at. -/
def isWhole : Draft → Bool
  | .array items closed => closed && itemsWhole items
  | .object fields closed => closed && fieldsWhole fields
  | .broken => false
  | _ => true

/-- Every item is whole. -/
def itemsWhole : List Draft → Bool
  | [] => true
  | item :: rest => isWhole item && itemsWhole rest

/-- Every value is whole. -/
def fieldsWhole : List (Option String × Draft) → Bool
  | [] => true
  | (_, value) :: rest => isWhole value && fieldsWhole rest

end

mutual

/-- The free-form value of a draft, if it is whole, every part of it has a value, and it nests no
deeper than `levels`. -/
def json? (levels : Nat) : Draft → Option Json
  | .null => some .null
  | .bool b => some (.bool b)
  | .number n => n.map .number
  | .string s => s.map .string
  | .array items closed =>
    match levels with
    | 0 => none
    | inner + 1 => if closed then (jsonItems? inner items).map .array else none
  | .object fields closed =>
    match levels with
    | 0 => none
    | inner + 1 => if closed then (jsonFields? inner fields).map fun entries =>
        .object (Dict.ofEntries entries) else none
  | .broken => none

/-- The values of items. -/
def jsonItems? (levels : Nat) : List Draft → Option (List Json)
  | [] => some []
  | item :: rest => do
    let value ← json? levels item
    let values ← jsonItems? levels rest
    return value :: values

/-- The values of entries. -/
def jsonFields? (levels : Nat) : List (Option String × Draft) → Option (List (String × Json))
  | [] => some []
  | (key, value) :: rest => do
    let name ← key
    let this ← json? levels value
    let others ← jsonFields? levels rest
    return (name, this) :: others

end

/-- An array has a value only if it is closed and its items have values, one level down. -/
theorem exists_items_of_json? {levels : Nat} {items : List Draft} {closed : Bool} {value : Json}
    (h : json? levels (.array items closed) = some value) :
    ∃ inner values, levels = inner + 1 ∧ closed = true ∧ jsonItems? inner items = some values ∧
      value = .array values := by
  cases levels with
  | zero => cases h
  | succ inner =>
    cases closed with
    | false => cases h
    | true =>
      obtain ⟨values, hvalues, heq⟩ := Option.map_eq_some_iff.1 h
      exact ⟨inner, values, rfl, rfl, hvalues, heq.symm⟩

/-- An object has a value only if it is closed and its entries have values, one level down. -/
theorem exists_fields_of_json? {levels : Nat} {fields : List (Option String × Draft)} {closed : Bool}
    {value : Json} (h : json? levels (.object fields closed) = some value) :
    ∃ inner entries, levels = inner + 1 ∧ closed = true ∧ jsonFields? inner fields = some entries ∧
      value = .object (Dict.ofEntries entries) := by
  cases levels with
  | zero => cases h
  | succ inner =>
    cases closed with
    | false => cases h
    | true =>
      obtain ⟨entries, hentries, heq⟩ := Option.map_eq_some_iff.1 h
      exact ⟨inner, entries, rfl, rfl, hentries, heq.symm⟩

/-- How many levels of arrays and objects a reader goes down. -/
def maxLevels : Nat := 127

end Draft

/-- A text that is one JSON value and nothing else. -/
def Json.parse? (text : String) : Option Json :=
  match Draft.read text with
  | (draft, some rest) =>
    if Draft.skipSpace rest = [] then draft.json? Draft.maxLevels else none
  | (_, none) => none

end TypeSchema
