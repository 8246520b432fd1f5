import TypeSchema.Text.Categories

/-!
# Quoted texts

A text between quotes in which everything is escaped that could be mistaken or overlooked: quotes and
backslashes, line ends and other controls, characters that print nothing, and characters that change the
one before them.
-/

set_option autoImplicit false

namespace TypeSchema.Text

/-- Characters that extend the one before them and are neither nonspacing nor enclosing marks: the
property Other_Grapheme_Extend. -/
def extenderRanges : Ranges := #[
    (0x9be, 0x9be), (0x9d7, 0x9d7), (0xb3e, 0xb3e), (0xb57, 0xb57), (0xbbe, 0xbbe), (0xbd7, 0xbd7),
    (0xcc0, 0xcc0), (0xcc2, 0xcc2), (0xcc7, 0xcc8), (0xcca, 0xccb), (0xcd5, 0xcd6), (0xd3e, 0xd3e),
    (0xd57, 0xd57), (0xdcf, 0xdcf), (0xddf, 0xddf), (0x1715, 0x1715), (0x1734, 0x1734),
    (0x1b35, 0x1b35), (0x1b3b, 0x1b3b), (0x1b3d, 0x1b3d), (0x1b43, 0x1b44), (0x1baa, 0x1baa),
    (0x1bf2, 0x1bf3), (0x200c, 0x200c), (0x302e, 0x302f), (0xa953, 0xa953), (0xa9c0, 0xa9c0),
    (0xff9e, 0xff9f), (0x111c0, 0x111c0), (0x11235, 0x11235), (0x1133e, 0x1133e), (0x1134d, 0x1134d),
    (0x11357, 0x11357), (0x113b8, 0x113b8), (0x113c2, 0x113c2), (0x113c5, 0x113c5),
    (0x113c7, 0x113c9), (0x113cf, 0x113cf), (0x114b0, 0x114b0), (0x114bd, 0x114bd),
    (0x115af, 0x115af), (0x116b6, 0x116b6), (0x11930, 0x11930), (0x1193d, 0x1193d),
    (0x11f41, 0x11f41), (0x16ff0, 0x16ff1), (0x1d165, 0x1d166), (0x1d16d, 0x1d172),
    (0xe0020, 0xe007f)]

/-- Whether the character extends the one before it: the property Grapheme_Extend.  Below U+0300 none
does. -/
def isExtending (c : Char) : Bool :=
  if c.toNat < 0x300 then false
  else
    nonspacingMarkRanges.contains c || enclosingMarkRanges.contains c || extenderRanges.contains c

/-- Controls, the separators of lines and paragraphs, and characters for private use: Cc, Zl, Zp and
Co. -/
def blindRanges : Ranges := #[
    (0x0, 0x1f), (0x7f, 0x9f), (0x2028, 0x2029), (0xe000, 0xf8ff), (0xf0000, 0xffffd),
    (0x100000, 0x10fffd)]

/-- Whether the character prints something.  Of the separators only the blank does. -/
def isPrintable (c : Char) : Bool :=
  if c.toNat < 0x7f then 0x20 ≤ c.toNat
  else
    !(spaceRanges.contains c || formatRanges.contains c || unassignedRanges.contains c ||
      blindRanges.contains c)

/-- Characters with what stands for them behind a backslash. -/
def marks : List (Char × Char) :=
  [('\x22', '\x22'), ('\\', '\\'), ('\n', 'n'), ('\r', 'r'), ('\t', 't'), ('\x00', '0')]

/-- One character between quotes. -/
def spelledOut (c : Char) : List Char :=
  match marks.lookup c with
  | some mark => ['\\', mark]
  | none =>
    if isExtending c || !isPrintable c then
      '\\' :: 'u' :: '\x7b' :: (Nat.toDigits 16 c.toNat ++ ['\x7d'])
    else [c]

/-- The text between quotes. -/
def quotation (s : String) : String :=
  String.ofList ('\x22' :: (s.toList.flatMap spelledOut ++ ['\x22']))

end TypeSchema.Text
