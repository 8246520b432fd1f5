import TypeSchema.Json.Draft
import TypeSchema.Json.Printer

/-!
# Quoted strings are read back

A quoted string is written character by character: some characters as an escape, the others as they
are.  The reader gathers code points, and joins the halves of surrogate pairs afterwards.  A character
is never a half, so nothing is joined that was not one character before
(`Draft.joinHalves_toNat`), and what was quoted is read back whatever follows it
(**`Draft.readString_quoted`**).
-/

set_option autoImplicit false

namespace TypeSchema

open TypeSchema.Text

namespace Text

/-- The digits of a number below sixteen. -/
theorem digitValue?_hexDigit {n : Nat} (h : n < 16) : digitValue? (hexDigit n) = some n := by
  revert h
  revert n
  decide

theorem readDigits_cons {base value d : Nat} {c : Char} {rest : List Char}
    (h : digitValue? c = some d) (hd : d < base) :
    readDigits base value (c :: rest) = readDigits base (value * base + d) rest := by
  rw [readDigits, h]
  exact if_pos hd

/-- A character is the one with its code point. -/
theorem character?_toNat (c : Char) : character? c.toNat = some c := by
  have hvalid : c.toNat.isValidChar := c.valid
  rw [character?, dif_pos hvalid]
  rfl

end Text

namespace Draft

theorem hexCode?_hexDigits {n : Nat} (h : n < 0x100) :
    hexCode? '0' '0' (hexDigit (n / 16)) (hexDigit (n % 16)) = some n := by
  have hzero : digitValue? '0' = some 0 := by decide
  show readDigits 16 0 _ = _
  rw [readDigits_cons hzero (by decide), readDigits_cons hzero (by decide),
    readDigits_cons (digitValue?_hexDigit (by omega)) (by omega),
    readDigits_cons (digitValue?_hexDigit (by omega)) (by omega), readDigits]
  congr 1
  omega

/-! ## One character -/

theorem readCodes_short {c letter : Char} (h : shortEscape? c = some letter) (hc : c ≠ 'u')
    (rest : List Char) : readCodes ('\\' :: c :: rest) =
      (readCodes rest).map fun (codes, after) => (letter.toNat :: codes, after) := by
  rw [readCodes]
  · rw [h]
    cases readCodes rest <;> rfl
  · rintro _ _ _ _ _ heq
    exact fun _ => hc heq

theorem readCodes_escape {a b c d : Char} {code : Nat} (h : hexCode? a b c d = some code)
    (rest : List Char) : readCodes ('\\' :: 'u' :: a :: b :: c :: d :: rest) =
      (readCodes rest).map fun (codes, after) => (code :: codes, after) := by
  rw [readCodes, h]
  cases readCodes rest <;> rfl

theorem readCodes_plain {c : Char} (hquote : c ≠ '\x22') (hslash : c ≠ '\\')
    (hcontrol : ¬c.toNat < 0x20) (rest : List Char) : readCodes (c :: rest) =
      (readCodes rest).map fun (codes, after) => (c.toNat :: codes, after) := by
  rw [readCodes]
  · rw [if_neg (by simp [hcontrol, hslash])]
    cases readCodes rest <;> rfl
  · exact fun h => hquote h
  · rintro _ _ _ _ _ heq
    exact fun _ => hslash heq
  · rintro _ _ heq
    exact fun _ => hslash heq

/-- What is written for one character is read as its code point. -/
theorem readCodes_escaped (c : Char) (rest : List Char) :
    readCodes (Json.escaped c ++ rest) =
      (readCodes rest).map fun (codes, after) => (c.toNat :: codes, after) := by
  unfold Json.escaped
  iterate 7
    split
    · subst c
      exact readCodes_short (by decide) (by decide) rest
  split
  · rename_i hcontrol
    exact readCodes_escape (hexCode?_hexDigits (by omega)) rest
  · exact readCodes_plain ‹_› ‹_› ‹_› rest

/-! ## Strings -/

theorem readCodes_flatMap (cs rest : List Char) :
    readCodes (cs.flatMap Json.escaped ++ '\x22' :: rest) = some (cs.map Char.toNat, rest) := by
  induction cs with
  | nil => rw [List.flatMap_nil, List.nil_append, readCodes]; rfl
  | cons c cs ih =>
    rw [List.flatMap_cons, List.append_assoc, readCodes_escaped, ih]
    rfl

/-- A character is not one half of a surrogate pair. -/
theorem not_isHalf (c : Char) : ¬(0xd800 ≤ c.toNat ∧ c.toNat < 0xdc00) := by
  have hvalid : c.toNat < 0xd800 ∨ 0xdfff < c.toNat ∧ c.toNat < 0x110000 := c.valid
  omega

/-- No characters are joined to others. -/
theorem joinHalves_toNat (cs : List Char) : joinHalves (cs.map Char.toNat) = some cs := by
  induction cs with
  | nil => rfl
  | cons first rest ih =>
    cases rest with
    | nil =>
      show (character? first.toNat).map _ = _
      rw [character?_toNat]
      rfl
    | cons second rest =>
      have hhalf := not_isHalf first
      rw [List.map_cons] at ih ⊢
      rw [List.map_cons, joinHalves, if_neg fun h => hhalf ⟨h.1, h.2.1⟩, character?_toNat, ih]
      rfl

/-- **A quoted string is read back**, and the text after it is left. -/
theorem readString_quoted (s : String) (rest : List Char) :
    readString (s.toList.flatMap Json.escaped ++ '\x22' :: rest) = some (some s, rest) := by
  rw [readString, readCodes_flatMap]
  show some ((joinHalves (s.toList.map Char.toNat)).map String.ofList, rest) = _
  rw [joinHalves_toNat]
  simp

end Draft

end TypeSchema
