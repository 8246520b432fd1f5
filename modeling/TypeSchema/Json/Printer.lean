import TypeSchema.Json.Basic
import TypeSchema.Number.Text
import TypeSchema.Text.Basic

/-!
# Writing JSON

Two layouts: `compact` without any blanks, and `pretty` with one entry a line and two blanks for
each level.  Strings escape the quote, the backslash and the control characters below U+0020; all
other characters stand for themselves.
-/

set_option autoImplicit false

namespace TypeSchema.Json

open TypeSchema.Text

/-- One character inside a quoted string. -/
def escaped (c : Char) : List Char :=
  if c = '\x22' then ['\\', '\x22']
  else if c = '\\' then ['\\', '\\']
  else if c = '\n' then ['\\', 'n']
  else if c = '\r' then ['\\', 'r']
  else if c = '\t' then ['\\', 't']
  else if c = '\x08' then ['\\', 'b']
  else if c = '\x0c' then ['\\', 'f']
  else if c.toNat < 0x20 then
    ['\\', 'u', '0', '0', hexDigit (c.toNat / 16), hexDigit (c.toNat % 16)]
  else [c]

/-- A quoted string. -/
def quoted (s : String) : List Char :=
  '\x22' :: s.toList.flatMap escaped ++ ['\x22']

/-- A number: integers as digits, doubles in the layout of JSON documents. -/
def numeral : Number → List Char
  | .integer n => (toString n).toList
  | .double x => (Double.text .json x).toList

mutual

/-- The characters of a value without blanks. -/
def chars : Json → List Char
  | .null => ['n', 'u', 'l', 'l']
  | .bool true => ['t', 'r', 'u', 'e']
  | .bool false => ['f', 'a', 'l', 's', 'e']
  | .number n => numeral n
  | .string s => quoted s
  | .array items => '[' :: (itemChars items ++ [']'])
  | .object fields => '\x7b' :: (fieldChars fields ++ ['\x7d'])

/-- Items with commas between them. -/
def itemChars : List Json → List Char
  | [] => []
  | [item] => chars item
  | item :: rest => chars item ++ ',' :: itemChars rest

/-- Entries with commas between them. -/
def fieldChars : List (String × Json) → List Char
  | [] => []
  | [(key, value)] => quoted key ++ ':' :: chars value
  | (key, value) :: rest => quoted key ++ ':' :: (chars value ++ ',' :: fieldChars rest)

end

/-- A value without blanks. -/
def compact (value : Json) : String :=
  String.ofList value.chars

/-- A new line at the level. -/
def newLine (level : Nat) : List Char :=
  '\n' :: List.replicate (2 * level) ' '

mutual

/-- The characters of a value with one entry a line; `level` is the level of the value itself. -/
def prettyChars (level : Nat) : Json → List Char
  | .array [] => ['[', ']']
  | .array items => '[' :: (prettyItems (level + 1) items ++ newLine level ++ [']'])
  | .object [] => ['\x7b', '\x7d']
  | .object fields => '\x7b' :: (prettyFields (level + 1) fields ++ newLine level ++ ['\x7d'])
  | .null => ['n', 'u', 'l', 'l']
  | .bool true => ['t', 'r', 'u', 'e']
  | .bool false => ['f', 'a', 'l', 's', 'e']
  | .number n => numeral n
  | .string s => quoted s

/-- Items, each on a line of its own. -/
def prettyItems (level : Nat) : List Json → List Char
  | [] => []
  | [item] => newLine level ++ prettyChars level item
  | item :: rest => newLine level ++ prettyChars level item ++ ',' :: prettyItems level rest

/-- Entries, each on a line of its own. -/
def prettyFields (level : Nat) : List (String × Json) → List Char
  | [] => []
  | [(key, value)] => newLine level ++ quoted key ++ ':' :: ' ' :: prettyChars level value
  | (key, value) :: rest =>
    newLine level ++ quoted key ++ ':' :: ' ' :: (prettyChars level value ++
      ',' :: prettyFields level rest)

end

/-- A value with one entry a line. -/
def pretty (value : Json) : String :=
  String.ofList (value.prettyChars 0)

end TypeSchema.Json
