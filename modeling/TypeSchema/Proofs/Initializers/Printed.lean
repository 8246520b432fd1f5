import TypeSchema.Proofs.Initializers.Completeness
import TypeSchema.Proofs.Json.Numerals
import TypeSchema.Proofs.Json.Strings
import TypeSchema.Proofs.Number.Whole

/-!
# Printed values are initializers

JSON text is source text: what is printed for a value without objects spells a literal
(`Json.IsExact.spells`), so it is read back, and as it was printed (**`read_compact_of_isExact`**).
Strings take the escapes that JSON writes, and numbers are whole, of at most fifty-three bits.  Such a
number is written as digits behind its sign, and the reader, which makes doubles of numerals, makes the
same number of them again.

There are no blanks and no assertions in printed text, and a value spells an operand on every level.
-/

set_option autoImplicit false

namespace TypeSchema

open Text

/-- The value is made of constants, strings, arrays and whole numbers that doubles hold. -/
inductive Json.IsExact : Json → Prop
  | null : IsExact .null
  | bool (b : Bool) : IsExact (.bool b)
  | integer {n : Int} (h : n.natAbs ≤ 2 ^ 53) : IsExact (.number (.integer n))
  | string (s : String) : IsExact (.string s)
  | array {items : List Json} (hitems : ∀ item ∈ items, IsExact item) : IsExact (.array items)

namespace Literal

variable {text raw letters digits : List Char} {value : Json} {n : Nat}

/-! ## Strings -/

theorem hexCharacter?_hexDigits {c : Char} (h : c.toNat < 0x100) :
    hexCharacter? ['0', '0', hexDigit (c.toNat / 16), hexDigit (c.toNat % 16)] = some c := by
  have hcode : natural? 16 ['0', '0', hexDigit (c.toNat / 16), hexDigit (c.toNat % 16)] =
      some c.toNat := Draft.hexCode?_hexDigits h
  rw [hexCharacter?, hcode]
  exact character?_toNat c

/-- What is written for a character stands for it in a string. -/
theorem Quoted.cons_escaped (c : Char) (h : Quoted '\x22' raw letters) :
    Quoted '\x22' (Json.escaped c ++ raw) (c :: letters) := by
  unfold Json.escaped
  iterate 7
    split
    · subst c
      exact .escaped (.short (by decide) (by decide)) h
  split
  · exact .escaped (.unit rfl (by simp) (hexCharacter?_hexDigits (by omega))) h
  · exact .letter ‹_› ‹_› h

theorem quoted_flatMap (cs : List Char) : Quoted '\x22' (cs.flatMap Json.escaped) cs := by
  induction cs with
  | nil => exact .nil
  | cons c cs ih => exact ih.cons_escaped c

theorem spells_quoted (s : String) : Spells .operand (Json.quoted s) (.string s) false := by
  have hspells := Spells.quoted (.inl rfl) (quoted_flatMap s.toList)
  rwa [String.ofList_toList] at hspells

/-! ## Whole numbers -/

theorem AreDigits.not_mem (h : AreDigits digits) {c : Char} (hc : c.isDigit = false) :
    c ∉ digits := by
  intro hmem
  rw [h c hmem] at hc
  cases hc

theorem AreDigits.withoutUnderscores (h : AreDigits digits) :
    Literal.withoutUnderscores digits = digits := by
  refine List.filter_eq_self.2 fun c hc => decide_eq_true ?_
  rintro rfl
  exact h.not_mem (by decide) hc

theorem AreDigits.map_toLower (h : AreDigits digits) : digits.map Char.toLower = digits := by
  have hself : ∀ c ∈ digits, c.toLower = id c := by
    intro c hc
    have hrange := isDigit_iff.1 (h c hc)
    rw [← Char.toNat_inj, toNat_toLower, if_neg (by omega), id]
  rw [List.map_congr_left hself, List.map_id]

theorem AreDigits.unsigned? (h : AreDigits digits) (hne : digits ≠ []) :
    Double.unsigned? false digits =
      some (Double.ofDecimal false (Double.digitsValue 0 digits) 0) := by
  have hspan : Double.spanDigits digits = (digits, []) := by
    have htake := takeWhile_append (p := Char.isDigit) h halts_nil
    have hdrop := dropWhile_append (p := Char.isDigit) h halts_nil
    rw [List.append_nil] at htake hdrop
    rw [Double.spanDigits, htake, hdrop]
  simp [Double.unsigned?, hspan, hne, Double.exponent?]

/-- Digits are decimal, as no base is named among them. -/
theorem AreDigits.numeralDouble? (h : AreDigits digits) :
    Literal.numeralDouble? digits = Double.decimal? digits := by
  rw [Literal.numeralDouble?, h.map_toLower]
  split
  · exact absurd (by simp) (h.not_mem (c := 'x') rfl)
  · exact absurd (by simp) (h.not_mem (c := 'b') rfl)
  · exact absurd (by simp) (h.not_mem (c := 'o') rfl)
  · rfl

theorem AreDigits.decimal? (h : AreDigits digits) (hne : digits ≠ [])
    (hfinite : Double.isFinite (Double.ofDecimal false (Double.digitsValue 0 digits) 0) = true) :
    Double.decimal? digits = some (Double.ofDecimal false (Double.digitsValue 0 digits) 0) := by
  rw [Double.decimal?, h.unsigned? hne, Option.filter_some, if_pos hfinite]
  · rintro rest rfl
    exact h.not_mem (c := '-') rfl List.mem_cons_self
  · rintro rest rfl
    exact h.not_mem (c := '+') rfl List.mem_cons_self

/-- The digits of a number are the numeral of the double next to it. -/
theorem isNumber_toDigits (h : n ≤ 2 ^ 53) :
    IsNumber (Nat.toDigits 10 n) (Double.ofDecimal false n 0) := by
  obtain ⟨hne, hdigits⟩ := Numeral.isDigits_toDigits n
  have hdigits : AreDigits (Nat.toDigits 10 n) := hdigits
  have hvalue := Number.digitsValue_toDigits n
  refine ⟨?_, fun before sign after htext hsign => ?_, ?_⟩
  · rw [hdigits.withoutUnderscores, ← List.append_nil (Nat.toDigits 10 n)]
    exact .whole hdigits hne .none
  · have hmem : sign ∈ Nat.toDigits 10 n := by simp [htext]
    refine absurd hmem (hdigits.not_mem ?_)
    rcases hsign with rfl | rfl <;> rfl
  · rw [hdigits.withoutUnderscores, hdigits.numeralDouble?, hdigits.decimal? hne, hvalue]
    rw [hvalue]
    exact Double.isFinite_ofDecimal h

theorem negated_ofDecimal (hpos : n ≠ 0) (h : n ≤ 2 ^ 53) :
    negated (Double.ofDecimal false n 0) = .number (.integer (-n)) := by
  have hsign : decide ((n : Int) < 0) = false := decide_eq_false (by omega)
  have hdouble : (Number.integer n).toDouble = Double.ofDecimal false n 0 := by
    rw [Number.toDouble, hsign, Int.natAbs_natCast]
  rw [negated, Number.ofDouble_ofDecimal h, hdouble, numberJson, Number.ofDouble_neg_ofDecimal hpos h]

/-- **A printed number** is digits, with a minus in front if it is negative. -/
theorem spells_integer {n : Int} (h : n.natAbs ≤ 2 ^ 53) :
    Spells .operand (Json.numeral (.integer n)) (.number (.integer n)) false := by
  have hnumber := isNumber_toDigits h
  rw [Number.numeral_integer]
  by_cases hn : n < 0
  · have hspells := Spells.minus areBlanks_nil hnumber
    rw [negated_ofDecimal (by omega) h] at hspells
    have hvalue : -(n.natAbs : Int) = n := by omega
    rw [hvalue] at hspells
    simpa [Numeral.text, hn, Numeral.fractionText, Numeral.exponentText] using hspells
  · have hhead : (Nat.toDigits 10 n.natAbs).head? ≠ some '_' := by
      intro hhead
      have hdigit := (Numeral.isDigits_toDigits n.natAbs).2 _ (List.mem_of_mem_head? hhead)
      cases hdigit
    have hspells := Spells.number hnumber hhead
    have hvalue : (n.natAbs : Int) = n := by omega
    rw [numberJson, Number.ofDouble_ofDecimal h, hvalue] at hspells
    simpa [Numeral.text, hn, Numeral.fractionText, Numeral.exponentText] using hspells

/-! ## Values -/

/-- An operand is an expression, with nothing before or behind it. -/
theorem Spells.expression {closed : Bool} (h : Spells .operand text value false) :
    Spells (.expression closed) text value false := by
  have hspells : Spells (.expression closed) ([] ++ text ++ []) value false :=
    .plain (.bare areBlanks_nil h) areBlanks_nil
  simpa using hspells

theorem spells_itemChars {items : List Json}
    (h : ∀ item ∈ items, Spells .operand item.chars item false) :
    Spells .items (Json.itemChars items ++ [']']) (.array items) false := by
  induction items with
  | nil => exact .none areBlanks_nil
  | cons first rest ih =>
    obtain ⟨hfirst, hrest⟩ := List.forall_mem_cons.1 h
    cases rest with
    | nil => exact .last hfirst.expression
    | cons second rest =>
      have hspells := Spells.next hfirst.expression (ih hrest)
      simpa [Json.itemChars] using hspells

end Literal

/-- **What is printed for a value spells a literal**, without any blanks or assertions. -/
theorem Json.IsExact.spells {value : Json} (h : value.IsExact) :
    Literal.Spells .operand value.chars value false := by
  induction h with
  | null => exact .constant (show ("null", _) ∈ Literal.constants by simp [Literal.constants])
  | bool b =>
    cases b with
    | false => exact .constant (show ("false", _) ∈ Literal.constants by simp [Literal.constants])
    | true => exact .constant (show ("true", _) ∈ Literal.constants by simp [Literal.constants])
  | integer h => exact Literal.spells_integer h
  | string s => exact Literal.spells_quoted s
  | array _ ih => exact .array (Literal.spells_itemChars ih)

namespace Literal

/-- **Reading undoes printing.**  The compact text of a value without objects, in which numbers are whole
and of at most fifty-three bits, is read as that value, and without an assertion. -/
theorem read_compact_of_isExact {value : Json} (h : value.IsExact) :
    readLiteral value.compact = .ok value ∧ readInitializer value.compact = .ok ⟨value, false⟩ := by
  have hsource : value.compact.toList = value.chars := String.toList_ofList
  have hspells : Spells (.expression false) value.chars value false := h.spells.expression
  obtain ⟨hopens, hhead⟩ := h.spells.leads
  have hled : isLed value.compact = false := by
    have hrest : (Cursor.start value.compact).rest = value.chars := hsource
    refine decide_eq_false ?_
    rwa [Cursor.skipBlanks_eq_self (hrest ▸ hopens.halts), Cursor.peek?, hrest]
  refine ⟨readLiteral_eq_ok_iff.2 ⟨false, hsource ▸ hspells⟩,
    readInitializer_eq_ok_iff.2 ⟨false, hsource ▸ hspells, ?_⟩⟩
  rw [hled, Bool.or_false]

/-- An array of arrays, with the least of the numbers and a string of escapes. -/
theorem read_compact_of_isExact_nested :
    ∃ value, value = Json.array [.null,
        .array [.bool true, .number (.integer (-9007199254740992)), .array []],
        .string "\x01\n\x22é"] ∧
      value.compact = "[null,[true,-9007199254740992,[]],\x22\\u0001\\n\\\x22é\x22]" ∧
      readLiteral value.compact = .ok value ∧ readInitializer value.compact = .ok ⟨value, false⟩ := by
  refine ⟨_, rfl, by decide +kernel, read_compact_of_isExact (.array ?_)⟩
  simp only [List.forall_mem_cons]
  refine ⟨.null, .array ?_, .string _, List.forall_mem_nil _⟩
  simp only [List.forall_mem_cons]
  exact ⟨.bool true, .integer (by decide), .array (List.forall_mem_nil _), List.forall_mem_nil _⟩

end Literal

end TypeSchema
