import Mathlib.Algebra.Ring.Int.Defs
import TypeSchema.Proofs.Initializers.Cursors

/-!
# The grammar of initializers

What an initializer may look like, without a reader: `Spells part text value asserted` says that `text`
is a literal, or one of the parts literals are made of, and worth `value`.  A literal is a number, a
quoted string, a template without substitutions, a constant, an array of literals or a literal in
parentheses; assertions stand in front of it (`<T>x`), or one stands behind it (`x as T`,
`x satisfies T`).

A type in angle brackets is any text in which these are balanced.  A type behind `as` is any text at
all, up to the comma or closing bracket that ends it, and that is as far as the grammar of types goes:
`IsType` speaks of brackets and commas and of nothing else.  One that is followed by something ends
where its brackets are balanced; one that the whole text ends with need not be balanced, but may not be
empty.  Everything behind `as` up to that place is the one type, so a second assertion behind the first
belongs to the first one's type.

`asserted` says whether there is an assertion behind the literal or behind some literal in it.
-/

set_option autoImplicit false

namespace TypeSchema.Literal

open Text

/-! ## Numbers -/

/-- Nothing but decimal digits. -/
def AreDigits (cs : List Char) : Prop :=
  ∀ c ∈ cs, c.isDigit = true

/-- A sign of a number. -/
def IsSign (c : Char) : Prop :=
  c = '-' ∨ c = '+'

/-- The mark of an exponent. -/
def IsExponentMark (c : Char) : Prop :=
  c = 'e' ∨ c = 'E'

/-- An exponent, or nothing. -/
inductive IsExponent : List Char → Prop
  | none : IsExponent []
  | unsigned {mark : Char} {digits : List Char} (hmark : IsExponentMark mark)
      (hdigits : AreDigits digits) (hne : digits ≠ []) : IsExponent (mark :: digits)
  | signed {mark sign : Char} {digits : List Char} (hmark : IsExponentMark mark)
      (hsign : IsSign sign) (hdigits : AreDigits digits) (hne : digits ≠ []) :
      IsExponent (mark :: sign :: digits)

/-- The marks of the bases other than ten. -/
def bases : List (Char × Nat) :=
  [('x', 16), ('X', 16), ('b', 2), ('B', 2), ('o', 8), ('O', 8)]

/-- A numeral without underscores. -/
inductive IsNumeral : List Char → Prop
  | whole {digits exponent : List Char} (hdigits : AreDigits digits) (hne : digits ≠ [])
      (hexponent : IsExponent exponent) : IsNumeral (digits ++ exponent)
  | pointed {whole fraction exponent : List Char} (hwhole : AreDigits whole)
      (hfraction : AreDigits fraction) (hne : whole ≠ [] ∨ fraction ≠ [])
      (hexponent : IsExponent exponent) : IsNumeral (whole ++ '.' :: (fraction ++ exponent))
  | based {mark : Char} {base : Nat} {digits : List Char} (hmark : (mark, base) ∈ bases)
      (hdigits : ∀ c ∈ digits, ∃ d < base, digitValue? c = some d) (hne : digits ≠ []) :
      IsNumeral ('0' :: mark :: digits)

/-- The text without its underscores. -/
def withoutUnderscores (text : List Char) : List Char :=
  text.filter (· ≠ '_')

/-- A number: a numeral, with underscores anywhere in it but between the exponent's mark and its sign. -/
structure IsNumber (text : List Char) (x : Float) : Prop where
  numeral : IsNumeral (withoutUnderscores text)
  signs : ∀ before sign after, text = before ++ sign :: after → IsSign sign →
    ∃ mark, before.getLast? = some mark ∧ IsExponentMark mark
  value : numeralDouble? (withoutUnderscores text) = some x

/-! ## Strings and templates -/

/-- What a letter behind a backslash stands for. -/
def shortEscape : Char → Char
  | 'n' => '\n'
  | 't' => '\t'
  | 'r' => '\r'
  | 'b' => '\x08'
  | 'f' => '\x0c'
  | 'v' => '\x0b'
  | '0' => '\x00'
  | other => other

/-- What may stand behind a backslash, and the character it stands for. -/
inductive Escapes : List Char → Char → Prop
  | short {c : Char} (hx : c ≠ 'x') (hu : c ≠ 'u') : Escapes [c] (shortEscape c)
  | byte {hex : List Char} {x : Char} (hlength : hex.length = 2) (hcode : hexCharacter? hex = some x) :
      Escapes ('x' :: hex) x
  | unit {hex : List Char} {x : Char} (hlength : hex.length = 4)
      (hbrace : hex.head? ≠ some '\x7b') (hcode : hexCharacter? hex = some x) : Escapes ('u' :: hex) x
  | braced {hex : List Char} {x : Char} (hbrace : '\x7d' ∉ hex) (hcode : hexCharacter? hex = some x) :
      Escapes ('u' :: '\x7b' :: (hex ++ ['\x7d'])) x

/-- The inside of a string and the letters it stands for. -/
inductive Quoted (quote : Char) : List Char → List Char → Prop
  | nil : Quoted quote [] []
  | escaped {code raw letters : List Char} {x : Char} (hcode : Escapes code x)
      (hraw : Quoted quote raw letters) : Quoted quote ('\\' :: (code ++ raw)) (x :: letters)
  | letter {c : Char} {raw letters : List Char} (hquote : c ≠ quote) (hslash : c ≠ '\\')
      (hraw : Quoted quote raw letters) : Quoted quote (c :: raw) (c :: letters)

/-- The inside of a template without substitutions, which stands for itself. -/
inductive IsTemplate : List Char → Prop
  | nil : IsTemplate []
  | escaped {c : Char} {raw : List Char} (hraw : IsTemplate raw) : IsTemplate ('\\' :: c :: raw)
  | letter {c : Char} {raw : List Char} (hquote : c ≠ '\x60') (hslash : c ≠ '\\')
      (hsubstitution : c = '$' → raw.head? ≠ some '\x7b') (hraw : IsTemplate raw) :
      IsTemplate (c :: raw)

/-! ## Types -/

/-- A text in which angle brackets are balanced. -/
inductive Balanced : List Char → Prop
  | nil : Balanced []
  | letter {c : Char} {text : List Char} (hopen : c ≠ '<') (hclose : c ≠ '>')
      (htext : Balanced text) : Balanced (c :: text)
  | nested {inner text : List Char} (hinner : Balanced inner) (htext : Balanced text) :
      Balanced ('<' :: (inner ++ '>' :: text))

/-- What a character adds to the depth of brackets.  Brackets of all kinds count alike. -/
def bracketWeight (c : Char) : Int :=
  if c = '<' ∨ c = '(' ∨ c = '[' ∨ c = '\x7b' then 1
  else if c = '>' ∨ c = '\x7d' ∨ c = ')' ∨ c = ']' then -1
  else 0

/-- The depth of brackets behind a text. -/
def nesting (text : List Char) : Int :=
  (text.map bracketWeight).sum

/-- A character that may end a type behind `as`. -/
def IsStop (c : Char) : Prop :=
  c = ',' ∨ c = ')' ∨ c = ']'

instance (c : Char) : Decidable (IsStop c) :=
  inferInstanceAs (Decidable (_ ∨ _))

/-- Where the text begins at this depth of brackets, no comma and no closing bracket in it ends it. -/
def PassesFrom (depth : Int) (text : List Char) : Prop :=
  ∀ before c after, text = before ++ c :: after → IsStop c → depth + nesting before ≠ 0

/-- A type behind `as`: what the brackets and commas in it do not end.  It is closed if something
follows it. -/
structure IsType (closed : Bool) (type : List Char) : Prop where
  starts : Halts isBlank type
  passes : PassesFrom 0 type
  ends : if closed then nesting type = 0 else type ≠ []

/-- The words of assertions behind an expression. -/
def assertionWords : List String :=
  ["as", "satisfies"]

/-- The text ends like a word or a numeral, so a word directly behind it goes on with it. -/
def EndsWord (text : List Char) : Prop :=
  ∃ c, text.getLast? = some c ∧ (isIdentifierCharacter c = true ∨ c = '.')

/-! ## Literals -/

/-- The words that are literals. -/
def constants : List (String × Json) :=
  [("true", .bool true), ("false", .bool false), ("null", .null)]

/-- The parts that literals are made of.  An expression is closed if something follows it. -/
inductive Part
  | operand
  | prefixed
  | expression (closed : Bool)
  | items

/-- The text is the part of a literal, worth the value; the items of an array are worth the array.  The
flag says whether there is an assertion behind it or behind a literal in it. -/
inductive Spells : Part → List Char → Json → Bool → Prop
  | number {text : List Char} {x : Float} (hnumber : IsNumber text x)
      (hhead : text.head? ≠ some '_') : Spells .operand text (numberJson x) false
  | minus {blanks text : List Char} {x : Float} (hblanks : AreBlanks blanks)
      (hnumber : IsNumber text x) : Spells .operand ('-' :: (blanks ++ text)) (negated x) false
  | plus {blanks text : List Char} {x : Float} (hblanks : AreBlanks blanks)
      (hnumber : IsNumber text x) : Spells .operand ('+' :: (blanks ++ text)) (numberJson x) false
  | quoted {quote : Char} {raw letters : List Char} (hquote : quote = '\x22' ∨ quote = '\x27')
      (hraw : Quoted quote raw letters) :
      Spells .operand (quote :: (raw ++ [quote])) (.string (String.ofList letters)) false
  | template {raw : List Char} (hraw : IsTemplate raw) :
      Spells .operand ('\x60' :: (raw ++ ['\x60'])) (.string (String.ofList raw)) false
  | constant {name : String} {value : Json} (hname : (name, value) ∈ constants) :
      Spells .operand name.toList value false
  | array {text : List Char} {value : Json} {asserted : Bool}
      (hitems : Spells .items text value asserted) : Spells .operand ('[' :: text) value asserted
  | group {text : List Char} {value : Json} {asserted : Bool}
      (hinner : Spells (.expression true) text value asserted) :
      Spells .operand ('(' :: (text ++ [')'])) value asserted
  | bare {blanks text : List Char} {value : Json} {asserted : Bool} (hblanks : AreBlanks blanks)
      (hoperand : Spells .operand text value asserted) :
      Spells .prefixed (blanks ++ text) value asserted
  | led {blanks type text : List Char} {value : Json} {asserted : Bool} (hblanks : AreBlanks blanks)
      (htype : Balanced type) (hinner : Spells .prefixed text value asserted) :
      Spells .prefixed (blanks ++ ('<' :: (type ++ '>' :: text))) value asserted
  | plain {closed : Bool} {text blanks : List Char} {value : Json} {asserted : Bool}
      (hinner : Spells .prefixed text value asserted) (hblanks : AreBlanks blanks) :
      Spells (.expression closed) (text ++ blanks) value asserted
  | trailed {closed : Bool} {text gap blanks type : List Char} {word : String} {value : Json}
      {asserted : Bool} (hinner : Spells .prefixed text value asserted) (hgap : AreBlanks gap)
      (happart : gap = [] → ¬EndsWord text) (hword : word ∈ assertionWords)
      (hblanks : AreBlanks blanks) (hne : blanks ≠ []) (htype : IsType closed type) :
      Spells (.expression closed) (text ++ (gap ++ (word.toList ++ (blanks ++ type)))) value true
  | none {blanks : List Char} (hblanks : AreBlanks blanks) :
      Spells .items (blanks ++ [']']) (.array []) false
  | last {text : List Char} {value : Json} {asserted : Bool}
      (hitem : Spells (.expression true) text value asserted) :
      Spells .items (text ++ [']']) (.array [value]) asserted
  | next {text more : List Char} {value : Json} {values : List Json} {asserted later : Bool}
      (hitem : Spells (.expression true) text value asserted)
      (hmore : Spells .items more (.array values) later) :
      Spells .items (text ++ ',' :: more) (.array (value :: values)) (asserted || later)

end TypeSchema.Literal
