import TypeSchema.Literal.Basic
import TypeSchema.Number.Reading

/-!
# Reading initializers

The source text of an initializer is read as a literal and nothing else: numbers, quoted strings,
templates without substitutions, `true`, `false`, `null`, arrays of such and parentheses around
them, each under any number of type assertions (`<T>x`, `x as T`, `x satisfies T`).  Identifiers,
calls, objects and operators are refused, and nothing is evaluated.  Types are not parsed: an
asserted type is skipped up to the comma or bracket that ends it.

Faults name a character by its byte offset in the source, so the readers carry a `Cursor`: the
offset and the characters that remain.
-/

set_option autoImplicit false

namespace TypeSchema.Literal

open TypeSchema.Text

/-- A construct that is no literal. -/
inductive Construct
  | object
  | word (name : String)
  | codeEscape (hex : String)
  | byteEscape (hex : String)
  | substitution
  | holes
  | spread
deriving DecidableEq, Repr

/-- Why an initializer was refused. -/
inductive ReadFault
  | unexpectedEnd
  | unexpected (found : Char) (offset : Nat)
  | notLiteral (construct : Construct)
  | number (text : String)
deriving DecidableEq, Repr

/-- The construct in words. -/
def Construct.text : Construct → String
  | .object => "object literal"
  | .word name => "`" ++ name ++ "`"
  | .codeEscape hex => "escape `\\u\x7b" ++ hex ++ "\x7d`"
  | .byteEscape hex => "escape `" ++ hex ++ "`"
  | .substitution => "template with substitutions"
  | .holes => "array with holes"
  | .spread => "spread element"

/-- The fault in words. -/
def ReadFault.message : ReadFault → String
  | .unexpectedEnd => "unexpected end of expression"
  | .unexpected found offset =>
    "unexpected `" ++ found.toString ++ "` at offset " ++ toString offset
  | .notLiteral construct => construct.text ++ " is not a literal"
  | .number text => "invalid number `" ++ text ++ "`"

/-- A place in the source: its byte offset, and the characters from there on. -/
structure Cursor where
  offset : Nat
  rest : List Char

namespace Cursor

/-- The start of a source text. -/
def start (source : String) : Cursor :=
  ⟨0, source.toList⟩

/-- The character at the cursor. -/
def peek? (c : Cursor) : Option Char :=
  c.rest.head?

/-- Moves over the characters `taken`, which the remaining text begins with. -/
def after (c : Cursor) (taken rest : List Char) : Cursor :=
  ⟨c.offset + utf8Length taken, rest⟩

/-- The character at the cursor and the cursor behind it. -/
def next? (c : Cursor) : Option (Char × Cursor) :=
  match c.rest with
  | [] => none
  | x :: rest => some (x, ⟨c.offset + x.utf8Size, rest⟩)

/-- Moves over the characters of the class. -/
def skipWhile (c : Cursor) (p : Char → Bool) : Cursor :=
  c.after (c.rest.takeWhile p) (c.rest.dropWhile p)

/-- Moves over blanks. -/
def skipBlanks (c : Cursor) : Cursor :=
  c.skipWhile isBlank

/-- The fault of a character that may not stand at the cursor. -/
def fault (c : Cursor) : ReadFault :=
  match c.rest with
  | [] => .unexpectedEnd
  | x :: _ => .unexpected x c.offset

/-- Moves over the character, which has to be the next one. -/
def expect (want : Char) (c : Cursor) : Except ReadFault Cursor :=
  match c.next? with
  | some (x, rest) => if x = want then .ok rest else .error c.fault
  | none => .error c.fault

end Cursor

/-! ## Words and numbers -/

/-- A character of an identifier. -/
def isIdentifierCharacter (c : Char) : Bool :=
  isAlphanumeric c || c == '_' || c == '$'

/-- The identifier at the cursor (which may be empty) and the cursor behind it. -/
def word (c : Cursor) : String × Cursor :=
  (String.ofList (c.rest.takeWhile isIdentifierCharacter), c.skipWhile isIdentifierCharacter)

/-- The characters of a numeral: ASCII letters, digits, points and underscores, and a sign directly
after an `e` unless the numeral begins with `0x`.  `taken` holds the characters so far, last first. -/
def takeNumeral (taken : List Char) : List Char → List Char × List Char
  | [] => (taken.reverse, [])
  | c :: rest =>
    let exponentSign := (c == '-' || c == '+') &&
      (taken.head? == some 'e' || taken.head? == some 'E') &&
      !(['0', 'x'].isPrefixOf taken.reverse)
    if c.isAlphanum || c == '.' || c == '_' || exponentSign then takeNumeral (c :: taken) rest
    else (taken.reverse, c :: rest)

/-- A numeral of the base within 63 bits, as a double. -/
def basedDouble? (base : Nat) (digits : List Char) : Option Float :=
  (numeral? base digits).bind fun n =>
    if n < UInt64.size / 2 then some (Double.ofDecimal false n 0) else none

/-- What a numeral without its underscores is worth. -/
def numeralDouble? (cs : List Char) : Option Float :=
  match cs.map Char.toLower with
  | '0' :: 'x' :: digits => basedDouble? 16 digits
  | '0' :: 'b' :: digits => basedDouble? 2 digits
  | '0' :: 'o' :: digits => basedDouble? 8 digits
  | _ => Double.decimal? cs

/-- Reads a numeral. -/
def readNumber (c : Cursor) : Except ReadFault (Float × Cursor) :=
  let c := c.skipBlanks
  let (taken, rest) := takeNumeral [] c.rest
  match numeralDouble? (taken.filter (· ≠ '_')) with
  | some x => .ok (x, c.after taken rest)
  | none => .error (.number (String.ofList taken))

/-- A number as a JSON value. -/
def numberJson (x : Float) : Json :=
  .number (Number.ofDouble x)

/-- The value of a numeral after a minus.  The numeral is a value already, so minus zero is zero. -/
def negated (x : Float) : Json :=
  numberJson (-(Number.ofDouble x).toDouble)

/-! ## Strings and templates -/

/-- The character with the hexadecimal code. -/
def hexCharacter? (hex : List Char) : Option Char :=
  (natural? 16 hex).bind character?

/-- Reads a code of `count` hexadecimal digits. -/
def hexEscape (count : Nat) (c : Cursor) : Except ReadFault (Char × Cursor) :=
  let hex := c.rest.take count
  if hex.length < count then .error .unexpectedEnd
  else match hexCharacter? hex with
    | some x => .ok (x, c.after hex (c.rest.drop count))
    | none => .error (.notLiteral (.byteEscape (String.ofList hex)))

/-- Reads a code in braces, of which the opening one is read already.  The text may end before the
closing one. -/
def bracedEscape (c : Cursor) : Except ReadFault (Char × Cursor) :=
  let hex := c.rest.takeWhile (· ≠ '\x7d')
  let behind := c.rest.dropWhile (· ≠ '\x7d')
  match hexCharacter? hex with
  | some x => .ok (x, c.after (hex ++ behind.take 1) (behind.drop 1))
  | none => .error (.notLiteral (.codeEscape (String.ofList hex)))

/-- Reads an escape after its backslash. -/
def escape (c : Cursor) : Except ReadFault (Char × Cursor) :=
  match c.next? with
  | none => .error .unexpectedEnd
  | some (x, rest) =>
    match x with
    | 'n' => .ok ('\n', rest)
    | 't' => .ok ('\t', rest)
    | 'r' => .ok ('\r', rest)
    | 'b' => .ok ('\x08', rest)
    | 'f' => .ok ('\x0c', rest)
    | 'v' => .ok ('\x0b', rest)
    | '0' => .ok ('\x00', rest)
    | 'x' => hexEscape 2 rest
    | 'u' =>
      match rest.next? with
      | some ('\x7b', inner) => bracedEscape inner
      | _ => hexEscape 4 rest
    | other => .ok (other, rest)

/-- Reads a string up to its closing quote. -/
def stringBody (quote : Char) : Nat → Cursor → Except ReadFault (List Char × Cursor)
  | 0, _ => .error .unexpectedEnd
  | fuel + 1, c =>
    match c.next? with
    | none => .error .unexpectedEnd
    | some (x, rest) =>
      if x = quote then .ok ([], rest)
      else if x = '\\' then do
        let (letter, behind) ← escape rest
        let (letters, final) ← stringBody quote fuel behind
        return (letter :: letters, final)
      else do
        let (letters, final) ← stringBody quote fuel rest
        return (x :: letters, final)

/-- Reads a template up to its closing backquote.  Its text is raw: a backslash and the character
after it both stay. -/
def templateBody : Nat → Cursor → Except ReadFault (List Char × Cursor)
  | 0, _ => .error .unexpectedEnd
  | fuel + 1, c =>
    match c.next? with
    | none => .error .unexpectedEnd
    | some (x, rest) =>
      if x = '\x60' then .ok ([], rest)
      else if x = '$' ∧ rest.peek? = some '\x7b' then .error (.notLiteral .substitution)
      else if x = '\\' then
        match rest.next? with
        | none => .error .unexpectedEnd
        | some (y, behind) => do
          let (letters, final) ← templateBody fuel behind
          return (x :: y :: letters, final)
      else do
        let (letters, final) ← templateBody fuel rest
        return (x :: letters, final)

/-! ## Types -/

/-- Moves over a type in angle brackets; only angle brackets count. -/
def skipAngles (depth offset : Nat) : List Char → Except ReadFault Cursor
  | [] => .error .unexpectedEnd
  | x :: rest =>
    let behind := offset + x.utf8Size
    if x = '<' then skipAngles (depth + 1) behind rest
    else if x = '>' then
      if depth ≤ 1 then .ok ⟨behind, rest⟩ else skipAngles (depth - 1) behind rest
    else skipAngles depth behind rest

/-- Moves over an asserted type: up to a comma or a closing `)` or `]` outside all brackets, or to the
end.  Brackets of all kinds count in one depth, which `>` and `}` may take below zero. -/
def skipType (depth : Int) (offset : Nat) : List Char → Cursor
  | [] => ⟨offset, []⟩
  | x :: rest =>
    let behind := offset + x.utf8Size
    if x = '<' ∨ x = '(' ∨ x = '[' ∨ x = '\x7b' then skipType (depth + 1) behind rest
    else if x = '>' ∨ x = '\x7d' then skipType (depth - 1) behind rest
    else if x = ')' ∨ x = ']' then
      if depth = 0 then ⟨offset, x :: rest⟩ else skipType (depth - 1) behind rest
    else if x = ',' ∧ depth = 0 then ⟨offset, x :: rest⟩
    else skipType depth behind rest

/-- Moves over the assertions that follow an expression, and says whether there was one. -/
def skipAssertions : Nat → Cursor → Except ReadFault (Bool × Cursor)
  | 0, c => .ok (false, c)
  | fuel + 1, c =>
    let c := c.skipBlanks
    let (name, behind) := word c
    if (name = "as" ∨ name = "satisfies") ∧ behind.peek?.any isBlank then
      let target := behind.skipBlanks
      if target.rest = [] then .error .unexpectedEnd
      else do
        let (_, final) ← skipAssertions fuel (skipType 0 target.offset target.rest)
        return (true, final)
    else .ok (false, c)

/-! ## Expressions -/

/-- What an expression was read as: its value, whether a type assertion was met on the way, and
where it ends. -/
structure Reading where
  value : Json
  asserted : Bool
  final : Cursor

mutual

/-- Reads an expression with the assertions before and after it. -/
def expression : Nat → Cursor → Except ReadFault Reading
  | 0, _ => .error .unexpectedEnd
  | fuel + 1, c =>
    let c := c.skipBlanks
    if c.peek? = some '<' then do
      let behind ← skipAngles 0 c.offset c.rest
      expression fuel behind
    else do
      let inner ← operand fuel c
      let (asserted, final) ← skipAssertions inner.final.rest.length.succ inner.final
      return ⟨inner.value, inner.asserted || asserted, final⟩

/-- Reads a signed number or one of the other literals. -/
def operand : Nat → Cursor → Except ReadFault Reading
  | 0, _ => .error .unexpectedEnd
  | fuel + 1, c =>
    match c.next? with
    | none => .error .unexpectedEnd
    | some (x, rest) =>
      if x = '-' then do
        let (n, final) ← readNumber rest
        return ⟨negated n, false, final⟩
      else if x = '+' then do
        let (n, final) ← readNumber rest
        return ⟨numberJson n, false, final⟩
      else if x = '\x22' ∨ x = '\x27' then do
        let (letters, final) ← stringBody x rest.rest.length.succ rest
        return ⟨.string (String.ofList letters), false, final⟩
      else if x = '\x60' then do
        let (letters, final) ← templateBody rest.rest.length.succ rest
        return ⟨.string (String.ofList letters), false, final⟩
      else if x = '[' then do
        let (values, asserted, final) ← items fuel rest
        return ⟨.array values, asserted, final⟩
      else if x = '(' then do
        let inner ← expression fuel rest
        let final ← inner.final.skipBlanks.expect ')'
        return ⟨inner.value, inner.asserted, final⟩
      else if x = '\x7b' then .error (.notLiteral .object)
      else if x.isDigit ∨ x = '.' then do
        let (n, final) ← readNumber c
        return ⟨numberJson n, false, final⟩
      else if isAlphabetic x ∨ x = '_' ∨ x = '$' then
        let (name, final) := word c
        if name = "true" then .ok ⟨.bool true, false, final⟩
        else if name = "false" then .ok ⟨.bool false, false, final⟩
        else if name = "null" then .ok ⟨.null, false, final⟩
        else .error (.notLiteral (.word name))
      else .error c.fault

/-- Reads the items of an array up to its closing bracket; a comma may stand before it. -/
def items : Nat → Cursor → Except ReadFault (List Json × Bool × Cursor)
  | 0, _ => .error .unexpectedEnd
  | fuel + 1, c =>
    let c := c.skipBlanks
    match c.rest with
    | ']' :: rest => .ok ([], false, c.after [']'] rest)
    | ',' :: _ => .error (.notLiteral .holes)
    | '.' :: '.' :: '.' :: _ => .error (.notLiteral .spread)
    | _ => do
      let first ← expression fuel c
      let behind := first.final.skipBlanks
      match behind.rest with
      | ']' :: rest => return ([first.value], first.asserted, behind.after [']'] rest)
      | ',' :: rest =>
        let (values, asserted, final) ← items fuel (behind.after [','] rest)
        return (first.value :: values, first.asserted || asserted, final)
      | _ => throw behind.fault

end

/-- What an initializer was read as. -/
structure Initializer where
  value : Json
  /-- Whether a type assertion was met. -/
  asserted : Bool

/-- Reads a whole source text as one literal expression.  On the way down from an expression through
its operand and the items of an array to the next expression at least one character is read, so
three times the length bounds the depth. -/
def readInitializer (source : String) : Except ReadFault Initializer :=
  let c := (Cursor.start source).skipBlanks
  let led := c.peek? = some '<'
  do
    let reading ← expression (3 * c.rest.length + 3) c
    let final := reading.final.skipBlanks
    if final.rest = [] then return ⟨reading.value, led || reading.asserted⟩
    else throw final.fault

/-- Reads a whole source text as one literal expression and gives its value. -/
def readLiteral (source : String) : Except ReadFault Json :=
  (readInitializer source).map Initializer.value

end TypeSchema.Literal
