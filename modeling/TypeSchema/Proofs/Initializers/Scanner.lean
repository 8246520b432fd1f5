import TypeSchema.Proofs.Initializers.Numbers

/-!
# Scanning by position

The readers of initializers carry a cursor, which holds the characters that remain, so there is nothing
to index, to slice or to count down in them.  Here the same texts are scanned by position.  The source is
decoded into its characters, each with the byte offset it starts at, and a place is the number of
characters that are passed.  A place may be saved and gone back to.  A fault is located by looking an
offset up, or backwards from the place behind a character that is passed already, and the source is
sliced by byte offset to look for what follows.

What may go out of range is checked, and ends the scan with a `Trap`: a slice starts at a boundary
between characters, an offset is not taken below zero, nor is the count of open brackets.  The depth in
an asserted type may go below zero and is an integer.

Nothing bounds a loop or a nesting here but the steps that it is given, one for each round and for each
call, and a scan that has none left is `unfinished`.  So a scan has an end if, from some number of steps
on, it is not unfinished.
-/

set_option autoImplicit false

namespace TypeSchema.Literal

open Text

/-- What goes out of range. -/
inductive Trap
  | slice (offset : Nat)
  | offset
  | brackets
deriving DecidableEq, Repr

/-- Why a scan ends without a value. -/
inductive Stop
  | fault (fault : ReadFault)
  | trap (trap : Trap)
  | unfinished
deriving DecidableEq, Repr

/-- Where a scan stands: how many characters are passed, and whether there was an assertion behind an
operand. -/
structure Place where
  position : Nat
  asserted : Bool

/-- A scan from a place. -/
abbrev Scan := StateT Place (Except Stop)

namespace Scanner

/-- The characters with the byte offsets they start at, from the offset of the first one on. -/
def indicesFrom (offset : Nat) : List Char → List (Nat × Char)
  | [] => []
  | x :: rest => (offset, x) :: indicesFrom (offset + x.utf8Size) rest

/-- The characters of a source text with the byte offsets they start at. -/
def charIndices (source : String) : List (Nat × Char) :=
  indicesFrom 0 source.toList

/-- Ends the scan with the fault. -/
def fail {α : Type} (fault : ReadFault) : Scan α :=
  throw (.fault fault)

/-- There are no steps left. -/
def unfinished {α : Type} : Scan α :=
  throw .unfinished

/-- Takes a number from another, which has to be no less. -/
def less (n k : Nat) (trap : Trap) : Scan Nat :=
  if k ≤ n then return n - k else throw (.trap trap)

/-- Moves over one character. -/
def advance : Scan Unit :=
  modify fun place => { place with position := place.position + 1 }

variable (source : String)

/-- The character at the place. -/
def peek : Scan (Option Char) := do
  let place ← get
  return (charIndices source)[place.position]?.map Prod.snd

/-- The byte offset of the place, which is the size of the source at its end. -/
def offset : Scan Nat := do
  let place ← get
  return ((charIndices source)[place.position]?.map Prod.fst).getD source.utf8ByteSize

/-- Passes the next character, if there is one. -/
def bump : Scan (Option Char) := do
  match ← peek source with
  | some x =>
    advance
    return some x
  | none => return none

/-- The source from a byte offset on. -/
def sliceFrom (offset : Nat) : Scan String.Slice :=
  match source.pos? ⟨offset⟩ with
  | some start => return source.sliceFrom start
  | none => throw (.trap (.slice offset))

/-- The character at the place may not stand there. -/
def unexpected {α : Type} (x : Char) : Scan α := do
  fail (.unexpected x (← offset source))

/-- The character that was passed last may not stand there. -/
def unexpectedBefore {α : Type} (x : Char) : Scan α := do
  let behind ← offset source
  let start ← less behind x.utf8Size .offset
  fail (.unexpected x start)

/-- Passes the character, which has to be the next one. -/
def expect (want : Char) : Scan Unit := do
  match ← bump source with
  | some x => if x = want then return () else unexpectedBefore source x
  | none => fail .unexpectedEnd

/-- Passes blanks. -/
def skipBlanks : Nat → Scan Unit
  | 0 => unfinished
  | steps + 1 => do
    if (← peek source).any isBlank then
      advance
      skipBlanks steps

/-! ## Words and numbers -/

/-- Passes a run of identifier characters, which go on with the name. -/
def wordFrom (name : List Char) : Nat → Scan (List Char)
  | 0 => unfinished
  | steps + 1 => do
    match ← peek source with
    | some x =>
      if isIdentifierCharacter x then
        advance
        wordFrom (name ++ [x]) steps
      else return name
    | none => return name

/-- Passes an identifier, which may be empty. -/
def word (steps : Nat) : Scan String := do
  return String.ofList (← wordFrom source [] steps)

/-- Passes what goes on with a numeral. -/
def numeralFrom (text : List Char) : Nat → Scan (List Char)
  | 0 => unfinished
  | steps + 1 => do
    match ← peek source with
    | some x =>
      if goesOn text x then
        advance
        numeralFrom (text ++ [x]) steps
      else return text
    | none => return text

/-- Scans a numeral. -/
def number (steps : Nat) : Scan Float := do
  skipBlanks source steps
  let text ← numeralFrom source [] steps
  match numeralDouble? (withoutUnderscores text) with
  | some x => return x
  | none => fail (.number (String.ofList text))

/-! ## Strings and templates -/

/-- Scans so many more digits of a hexadecimal code, and takes them for a character. -/
def hexFrom (hex : List Char) : Nat → Scan Char
  | 0 =>
    match hexCharacter? hex with
    | some x => return x
    | none => fail (.notLiteral (.byteEscape (String.ofList hex)))
  | count + 1 => do
    match ← bump source with
    | some x => hexFrom (hex ++ [x]) count
    | none => fail .unexpectedEnd

/-- Passes the digits of a code in braces and the closing brace, which may be missing. -/
def bracedFrom (hex : List Char) : Nat → Scan (List Char)
  | 0 => unfinished
  | steps + 1 => do
    match ← bump source with
    | some x => if x = '\x7d' then return hex else bracedFrom (hex ++ [x]) steps
    | none => return hex

/-- Scans a code in braces behind the opening one. -/
def bracedEscape (steps : Nat) : Scan Char := do
  let hex ← bracedFrom source [] steps
  match hexCharacter? hex with
  | some code => return code
  | none => fail (.notLiteral (.codeEscape (String.ofList hex)))

/-- Scans an escape behind its backslash. -/
def escape (steps : Nat) : Scan Char := do
  match ← bump source with
  | none => fail .unexpectedEnd
  | some x =>
    if x = 'x' then hexFrom source [] 2
    else if x = 'u' then
      if (← peek source) = some '\x7b' then
        advance
        bracedEscape source steps
      else hexFrom source [] 4
    else return shortEscape x

/-- Scans the letters of a string up to the closing quote. -/
def lettersFrom (quote : Char) (letters : List Char) : Nat → Scan (List Char)
  | 0 => unfinished
  | steps + 1 => do
    match ← bump source with
    | none => fail .unexpectedEnd
    | some x =>
      if x = quote then return letters
      else if x = '\\' then
        let letter ← escape source steps
        lettersFrom quote (letters ++ [letter]) steps
      else lettersFrom quote (letters ++ [x]) steps

/-- Scans a string. -/
def string (steps : Nat) : Scan String := do
  match ← bump source with
  | none => fail .unexpectedEnd
  | some quote => return String.ofList (← lettersFrom source quote [] steps)

/-- Scans the raw text of a template up to the closing backquote. -/
def rawFrom (raw : List Char) : Nat → Scan (List Char)
  | 0 => unfinished
  | steps + 1 => do
    match ← bump source with
    | none => fail .unexpectedEnd
    | some x =>
      if x = '\x60' then return raw
      else if x = '$' ∧ (← peek source) = some '\x7b' then fail (.notLiteral .substitution)
      else if x = '\\' then
        match ← bump source with
        | some y => rawFrom (raw ++ ['\\', y]) steps
        | none => rawFrom (raw ++ ['\\']) steps
      else rawFrom (raw ++ [x]) steps

/-- Scans a template. -/
def template (steps : Nat) : Scan String := do
  expect source '\x60'
  return String.ofList (← rawFrom source [] steps)

/-! ## Types -/

/-- Passes a text up to the closing bracket of the first one that is opened in it. -/
def skipBalanced (opening closing : Char) (depth : Nat) : Nat → Scan Unit
  | 0 => unfinished
  | steps + 1 => do
    match ← bump source with
    | none => fail .unexpectedEnd
    | some x =>
      if x = opening then skipBalanced opening closing (depth + 1) steps
      else if x = closing then
        let depth ← less depth 1 .brackets
        if depth = 0 then return () else skipBalanced opening closing depth steps
      else skipBalanced opening closing depth steps

/-- Passes a type up to a comma or closing bracket outside all brackets, or to the end. -/
def skipTypeFrom (depth : Int) : Nat → Scan Unit
  | 0 => unfinished
  | steps + 1 => do
    match ← peek source with
    | none => return ()
    | some x =>
      if x = '<' ∨ x = '(' ∨ x = '[' ∨ x = '\x7b' then
        advance
        skipTypeFrom (depth + 1) steps
      else if x = '>' ∨ x = '\x7d' then
        advance
        skipTypeFrom (depth - 1) steps
      else if (x = ')' ∨ x = ']') ∧ depth = 0 then return ()
      else if x = ')' ∨ x = ']' then
        advance
        skipTypeFrom (depth - 1) steps
      else if x = ',' ∧ depth = 0 then return ()
      else
        advance
        skipTypeFrom depth steps

/-- Passes the type of an assertion. -/
def skipType (steps : Nat) : Scan Unit := do
  skipBlanks source steps
  if (← peek source).isNone then fail .unexpectedEnd else skipTypeFrom source 0 steps

/-- Passes the assertions behind an operand. -/
def assertions : Nat → Scan Unit
  | 0 => unfinished
  | steps + 1 => do
    skipBlanks source steps
    -- a word that is no assertion is left to whatever is behind the operand
    let saved := (← get).position
    let name ← word source steps
    if (name = "as" ∨ name = "satisfies") ∧ (← peek source).any isBlank then
      skipType source steps
      modify fun place => { place with asserted := true }
      assertions steps
    else modify fun place => { place with position := saved }

/-! ## Expressions -/

mutual

/-- Scans an expression. -/
def expression : Nat → Scan Json
  | 0 => unfinished
  | steps + 1 => do
    skipBlanks source steps
    if (← peek source) = some '<' then
      skipBalanced source '<' '>' 0 steps
      expression steps
    else
      let value ← operand steps
      assertions source steps
      return value

/-- Scans an operand, which may have a sign. -/
def operand : Nat → Scan Json
  | 0 => unfinished
  | steps + 1 => do
    skipBlanks source steps
    let next ← peek source
    if next = some '-' then
      advance
      return negated (← number source steps)
    else if next = some '+' then
      advance
      return numberJson (← number source steps)
    else primary steps

/-- Scans an operand without a sign. -/
def primary : Nat → Scan Json
  | 0 => unfinished
  | steps + 1 => do
    skipBlanks source steps
    match ← peek source with
    | none => fail .unexpectedEnd
    | some x =>
      if x = '\x22' ∨ x = '\x27' then return .string (← string source steps)
      else if x = '\x60' then return .string (← template source steps)
      else if x = '[' then
        expect source '['
        itemsFrom [] steps
      else if x = '(' then
        advance
        let value ← expression steps
        skipBlanks source steps
        expect source ')'
        return value
      else if x = '\x7b' then fail (.notLiteral .object)
      else if x.isDigit ∨ x = '.' then return numberJson (← number source steps)
      else if isAlphabetic x ∨ x = '_' ∨ x = '$' then
        let name ← word source steps
        if name = "true" then return .bool true
        else if name = "false" then return .bool false
        else if name = "null" then return .null
        else fail (.notLiteral (.word name))
      else unexpected source x

/-- Scans the rest of an array behind the values. -/
def itemsFrom (values : List Json) : Nat → Scan Json
  | 0 => unfinished
  | steps + 1 => do
    skipBlanks source steps
    let next ← peek source
    if next = some ']' then
      advance
      return .array values
    else if next = some ',' then fail (.notLiteral .holes)
    else if next = some '.' then
      -- a spread is looked for in the source itself, from the byte offset of the place on
      let ahead ← sliceFrom source (← offset source)
      if ahead.startsWith "..." then fail (.notLiteral .spread) else itemFrom values steps
    else itemFrom values steps

/-- Scans an item of an array and what is behind it. -/
def itemFrom (values : List Json) : Nat → Scan Json
  | 0 => unfinished
  | steps + 1 => do
    let value ← expression steps
    skipBlanks source steps
    match ← bump source with
    | none => fail .unexpectedEnd
    | some x =>
      if x = ',' then itemsFrom (values ++ [value]) steps
      else if x = ']' then return .array (values ++ [value])
      else unexpectedBefore source x

end

/-! ## Whole texts -/

/-- What is behind a literal has to be blank. -/
def finish {α : Type} (value : α) (steps : Nat) : Scan α := do
  skipBlanks source steps
  match ← peek source with
  | none => return value
  | some x => unexpected source x

/-- Scans a source text as one literal expression. -/
def literal (steps : Nat) : Scan Json := do
  let value ← expression source steps
  finish source value steps

/-- Scans a source text as one literal expression and notes whether an assertion was met. -/
def initializer (steps : Nat) : Scan Initializer := do
  skipBlanks source steps
  let led := (← peek source) = some '<'
  let value ← expression source steps
  let trailed := (← get).asserted
  finish source ⟨value, led || trailed⟩ steps

/-- Runs a scan from the start of the source. -/
def run {α : Type} (scan : Scan α) : Except Stop α :=
  (scan.run ⟨0, false⟩).map Prod.fst

end Scanner

end TypeSchema.Literal
