import TypeSchema.Text.Tables

/-!
# Characters and pieces of text

The character classes the readers ask about, and the few ways text is cut here: trimming blanks,
splitting at a character and joining again.  Everything is done on the list of characters, so that
statements about it are statements about lists.
-/

set_option autoImplicit false

namespace TypeSchema.Text

/-! ## Character classes -/

/-- Blank space: the property White_Space. -/
def isBlank (c : Char) : Bool :=
  blankRanges.contains c

/-- A letter: the property Alphabetic.  Below U+0080 these are the ASCII letters. -/
def isAlphabetic (c : Char) : Bool :=
  if c.toNat < 0x80 then c.isAlpha else alphabeticRanges.contains c

/-- A number: one of the general categories Nd, Nl and No. -/
def isNumeric (c : Char) : Bool :=
  if c.toNat < 0x80 then c.isDigit else numericRanges.contains c

/-- A letter or a number. -/
def isAlphanumeric (c : Char) : Bool :=
  isAlphabetic c || isNumeric c

/-- A character of a word in the sense of patterns: letters, decimal digits, marks, connector
punctuation and join controls. -/
def isWordCharacter (c : Char) : Bool :=
  if c.toNat < 0x80 then c.isAlphanum || c == '_'
  else alphabeticRanges.contains c || digitRanges.contains c || joiningRanges.contains c

/-! ## Numerals in a base -/

/-- The value of an ASCII digit or letter as a digit, up to 35 for `z`. -/
def digitValue? (c : Char) : Option Nat :=
  if c.isDigit then some (c.toNat - 0x30)
  else if c.isLower then some (c.toNat - 0x61 + 10)
  else if c.isUpper then some (c.toNat - 0x41 + 10)
  else none

/-- Reads digits of the base after what `value` holds already. -/
def readDigits (base : Nat) (value : Nat) : List Char → Option Nat
  | [] => some value
  | c :: rest =>
    match digitValue? c with
    | some d => if d < base then readDigits base (value * base + d) rest else none
    | none => none

/-- A numeral without a sign: at least one digit of the base and nothing else. -/
def numeral? (base : Nat) : List Char → Option Nat
  | [] => none
  | digits => readDigits base 0 digits

/-- A numeral that may carry a plus sign. -/
def natural? (base : Nat) : List Char → Option Nat
  | '+' :: digits => numeral? base digits
  | digits => numeral? base digits

/-- A numeral that may carry a sign. -/
def integer? (base : Nat) : List Char → Option Int
  | '-' :: digits => (numeral? base digits).map fun n => -(n : Int)
  | '+' :: digits => (numeral? base digits).map Int.ofNat
  | digits => (numeral? base digits).map Int.ofNat

/-- The character with this code point; surrogates and numbers above U+10FFFF name none. -/
def character? (code : Nat) : Option Char :=
  if h : code.isValidChar then some (Char.ofNatAux code h) else none

/-! ## Cutting and joining -/

/-- Drops blanks at both ends. -/
def trimList (cs : List Char) : List Char :=
  ((cs.dropWhile isBlank).reverse.dropWhile isBlank).reverse

/-- Drops blanks at both ends. -/
def trim (s : String) : String :=
  String.ofList (trimList s.toList)

/-- The pieces between separators: one more than there are separators. -/
def splitList (sep : Char) : List Char → List (List Char)
  | [] => [[]]
  | c :: rest =>
    if c = sep then [] :: splitList sep rest
    else match splitList sep rest with
      | piece :: pieces => (c :: piece) :: pieces
      | [] => [[c]]

/-- The pieces between separators: one more than there are separators. -/
def split (sep : Char) (s : String) : List String :=
  (splitList sep s.toList).map String.ofList

/-- What stands before and after the first separator. -/
def splitOnce? (sep : Char) (s : String) : Option (String × String) :=
  let cs := s.toList
  match cs.dropWhile (· ≠ sep) with
  | [] => none
  | _ :: after => some (String.ofList (cs.takeWhile (· ≠ sep)), String.ofList after)

/-- A comma-separated list, with blanks around the items and empty items dropped. -/
def commaList (s : String) : List String :=
  ((split ',' s).map trim).filter fun item => !item.isEmpty

/-- Ends lines with a line feed alone. -/
def unixLines : List Char → List Char
  | '\r' :: '\n' :: rest => '\n' :: unixLines rest
  | c :: rest => c :: unixLines rest
  | [] => []

/-- The position of the last separator's end: the text after it, or the whole text. -/
def afterLast (sep : Char) (s : String) : String :=
  String.ofList (s.toList.reverse.takeWhile (· ≠ sep)).reverse

/-- The number of bytes of the UTF-8 form. -/
def utf8Length (cs : List Char) : Nat :=
  cs.foldl (fun n c => n + c.utf8Size) 0

/-- Two digits of a hexadecimal number, lower case. -/
def hexDigit (n : Nat) : Char :=
  if n < 10 then Char.ofNat (0x30 + n) else Char.ofNat (0x61 + n - 10)

end TypeSchema.Text
