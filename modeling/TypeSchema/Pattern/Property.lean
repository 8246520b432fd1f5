import TypeSchema.Pattern.Regex
import TypeSchema.Text.Categories

/-!
# Character properties by name

The names a pattern may use for classes of characters: general categories, some properties and
scripts.  Names are compared without regard to case, blanks, hyphens and underscores.
-/

set_option autoImplicit false

namespace TypeSchema.Pattern

open TypeSchema.Text

/-- All characters. -/
def anyCharacter : CharSet :=
  .complement .empty

/-- The characters of `a` that are not in `b`. -/
def CharSet.without (a b : CharSet) : CharSet :=
  .inter a (.complement b)

/-- Decimal digits, with or without those beyond ASCII. -/
def digitSet (unicode : Bool) : CharSet :=
  .ranges (if unicode then digitRanges else #[(0x30, 0x39)])

/-- Blanks, with or without those beyond ASCII. -/
def spaceSet (unicode : Bool) : CharSet :=
  .ranges (if unicode then blankRanges else #[(0x09, 0x0d), (0x20, 0x20)])

/-- Characters of words, with or without those beyond ASCII. -/
def wordSet (unicode : Bool) : CharSet :=
  if unicode then
    .union (.ranges alphabeticRanges) (.union (.ranges digitRanges)
      (.union (.ranges joiningRanges) (.single '_')))
  else .ranges #[(0x30, 0x39), (0x41, 0x5a), (0x5f, 0x5f), (0x61, 0x7a)]

private def set (r : Ranges) : CharSet := .ranges r

private def letters : CharSet := set letterRanges

private def casedLetters : CharSet :=
  .union (set uppercaseRanges) (.union (set lowercaseRanges) (set titlecaseRanges))

private def controls : CharSet := set #[(0x00, 0x1f), (0x7f, 0x9f)]

private def privateUse : CharSet :=
  set #[(0xe000, 0xf8ff), (0xf0000, 0xffffd), (0x100000, 0x10fffd)]

/-- General categories, by their short and long names. -/
def generalCategories : List (List String × CharSet) :=
  [ (["l", "letter"], letters),
    (["lu", "uppercaseletter", "upper", "uppercase"], set uppercaseRanges),
    (["ll", "lowercaseletter", "lower", "lowercase"], set lowercaseRanges),
    (["lt", "titlecaseletter"], set titlecaseRanges),
    (["lc", "casedletter"], casedLetters),
    (["lm", "modifierletter"], set modifierLetterRanges),
    (["lo", "otherletter"],
      letters.without (.union casedLetters (set modifierLetterRanges))),
    (["m", "mark", "combiningmark"], set markRanges),
    (["mn", "nonspacingmark"], set nonspacingMarkRanges),
    (["me", "enclosingmark"], set enclosingMarkRanges),
    (["mc", "spacingmark"],
      (set markRanges).without (.union (set nonspacingMarkRanges) (set enclosingMarkRanges))),
    (["n", "number"], set numericRanges),
    (["nd", "decimalnumber", "digit"], set digitRanges),
    (["nl", "letternumber"], set letterNumberRanges),
    (["no", "othernumber"],
      (set numericRanges).without (.union (set digitRanges) (set letterNumberRanges))),
    (["p", "punctuation", "punct"], set punctuationRanges),
    (["pc", "connectorpunctuation"], set connectorRanges),
    (["pd", "dashpunctuation"], set dashRanges),
    (["ps", "openpunctuation"], set openRanges),
    (["pe", "closepunctuation"], set closeRanges),
    (["pi", "initialpunctuation"], set initialQuoteRanges),
    (["pf", "finalpunctuation"], set finalQuoteRanges),
    (["po", "otherpunctuation"],
      (set punctuationRanges).without (.union (set connectorRanges) (.union (set dashRanges)
        (.union (set openRanges) (.union (set closeRanges) (.union (set initialQuoteRanges)
          (set finalQuoteRanges))))))),
    (["s", "symbol"], set symbolRanges),
    (["sm", "mathsymbol"], set mathRanges),
    (["sc", "currencysymbol"], set currencyRanges),
    (["sk", "modifiersymbol"], set modifierSymbolRanges),
    (["so", "othersymbol"],
      (set symbolRanges).without (.union (set mathRanges) (.union (set currencyRanges)
        (set modifierSymbolRanges)))),
    (["z", "separator"], .union (set spaceRanges) (set #[(0x2028, 0x2029)])),
    (["zs", "spaceseparator"], set spaceRanges),
    (["zl", "lineseparator"], set #[(0x2028, 0x2028)]),
    (["zp", "paragraphseparator"], set #[(0x2029, 0x2029)]),
    (["cc", "control", "cntrl"], controls),
    (["cf", "format"], set formatRanges),
    (["co", "privateuse"], privateUse),
    (["cn", "unassigned"], set unassignedRanges),
    (["c", "other"], .union controls (.union (set formatRanges)
      (.union privateUse (set unassignedRanges)))) ]

/-- Other properties. -/
def otherProperties : List (List String × CharSet) :=
  [ (["any"], anyCharacter),
    (["ascii"], set #[(0x00, 0x7f)]),
    (["assigned"], .complement (set unassignedRanges)),
    (["alphabetic", "alpha"], set alphabeticRanges),
    (["whitespace", "wspace", "space"], set blankRanges) ]

/-- Scripts. -/
def scripts : List (List String × CharSet) :=
  [ (["latin", "latn"], set latinRanges),
    (["greek", "grek"], set greekRanges),
    (["cyrillic", "cyrl"], set cyrillicRanges),
    (["han", "hani"], set hanRanges),
    (["hiragana", "hira"], set hiraganaRanges),
    (["katakana", "kana"], set katakanaRanges),
    (["hebrew", "hebr"], set hebrewRanges),
    (["arabic", "arab"], set arabicRanges),
    (["hangul", "hang"], set hangulRanges) ]

/-- A name without case, blanks, hyphens and underscores. -/
def looseName (name : List Char) : String :=
  String.ofList ((name.filter fun c => !(isBlank c || c == '-' || c == '_')).map Char.toLower)

/-- The set a table has under the name. -/
def findNamed (table : List (List String × CharSet)) (name : String) : Option CharSet :=
  (table.find? fun entry => entry.1.contains name).map Prod.snd

/-- The class with the name; also `category=name` and `script=name`, where `:` does for `=`, and
`!=` for what is not in the class. -/
def property? (text : List Char) : Option CharSet :=
  let isSign (c : Char) : Bool := c == '=' || c == ':'
  match text.dropWhile fun c => !isSign c with
  | [] =>
    let name := looseName text
    (findNamed generalCategories name).or
      ((findNamed otherProperties name).or (findNamed scripts name))
  | sign :: value =>
    let key := text.takeWhile fun c => !isSign c
    let negated := sign = '=' ∧ key.getLast? = some '!'
    let found := match looseName (if negated then key.dropLast else key) with
      | "gc" | "generalcategory" => findNamed generalCategories (looseName value)
      | "sc" | "script" | "scx" | "scriptextensions" => findNamed scripts (looseName value)
      | _ => none
    if negated then found.map .complement else found

/-- The bracketed names of ASCII classes. -/
def asciiClass? : String → Option CharSet
  | "alnum" => some (set #[(0x30, 0x39), (0x41, 0x5a), (0x61, 0x7a)])
  | "alpha" => some (set #[(0x41, 0x5a), (0x61, 0x7a)])
  | "ascii" => some (set #[(0x00, 0x7f)])
  | "blank" => some (set #[(0x09, 0x09), (0x20, 0x20)])
  | "cntrl" => some (set #[(0x00, 0x1f), (0x7f, 0x7f)])
  | "digit" => some (set #[(0x30, 0x39)])
  | "graph" => some (set #[(0x21, 0x7e)])
  | "lower" => some (set #[(0x61, 0x7a)])
  | "print" => some (set #[(0x20, 0x7e)])
  | "punct" => some (set #[(0x21, 0x2f), (0x3a, 0x40), (0x5b, 0x60), (0x7b, 0x7e)])
  | "space" => some (set #[(0x09, 0x0d), (0x20, 0x20)])
  | "upper" => some (set #[(0x41, 0x5a)])
  | "word" => some (wordSet false)
  | "xdigit" => some (set #[(0x30, 0x39), (0x41, 0x46), (0x61, 0x66)])
  | _ => none

end TypeSchema.Pattern
