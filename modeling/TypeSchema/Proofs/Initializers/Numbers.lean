import Mathlib.Data.List.Basic
import TypeSchema.Proofs.Initializers.Grammar

/-!
# Numbers

A number is read in two steps: the characters it is made of are gathered, a sign among them only
directly behind the mark of an exponent (`goesOn`), and then they are taken for a numeral or refused.
`readNumber_eq_ok_iff` says that what is read is exactly a number of the grammar, up to the first
character that does not go on with it.
-/

set_option autoImplicit false

namespace TypeSchema.Literal

open Text

variable {before text cs digits rest : List Char} {x : Float} {c d : Char}

/-! ## Characters -/

theorem isDigit_iff : c.isDigit = true ↔ 48 ≤ c.toNat ∧ c.toNat ≤ 57 := by
  simp only [Char.isDigit, Bool.and_eq_true, decide_eq_true_eq, ge_iff_le, UInt32.le_iff_toNat_le]
  rfl

theorem isLower_iff : c.isLower = true ↔ 97 ≤ c.toNat ∧ c.toNat ≤ 122 := by
  show (decide (c.val ≥ 'a'.val) && decide (c.val ≤ 'z'.val)) = true ↔ _
  simp only [Bool.and_eq_true, decide_eq_true_eq, ge_iff_le, UInt32.le_iff_toNat_le]
  rfl

theorem isUpper_iff : c.isUpper = true ↔ 65 ≤ c.toNat ∧ c.toNat ≤ 90 := by
  show decide (c.val ≥ 65 ∧ c.val ≤ 90) = true ↔ _
  simp only [decide_eq_true_eq, ge_iff_le, UInt32.le_iff_toNat_le]
  rfl

theorem isAlphanum_iff : c.isAlphanum = true ↔
    (c.isUpper = true ∨ c.isLower = true) ∨ c.isDigit = true := by
  show ((c.isUpper || c.isLower) || c.isDigit) = true ↔ _
  rw [Bool.or_eq_true, Bool.or_eq_true]

theorem toNat_toLower (c : Char) :
    c.toLower.toNat = if 65 ≤ c.toNat ∧ c.toNat ≤ 90 then c.toNat + 32 else c.toNat := by
  have hcapital : c.val ≥ 'A'.val ∧ c.val ≤ 'Z'.val ↔ 65 ≤ c.toNat ∧ c.toNat ≤ 90 := by
    simp only [ge_iff_le, UInt32.le_iff_toNat_le]
    rfl
  by_cases h : 65 ≤ c.toNat ∧ c.toNat ≤ 90
  · have hlower : c.toLower.toNat = (c.toNat + 32) % 4294967296 :=
      congrArg Char.toNat (dif_pos (hcapital.2 h))
    rw [if_pos h, hlower]
    omega
  · have hlower : c.toLower = c := dif_neg (mt hcapital.1 h)
    rw [if_neg h, hlower]

/-- A lower case letter is what itself and its capital become in lower case. -/
theorem toLower_eq_iff (h : d.isLower = true) :
    c.toLower = d ↔ c = d ∨ c.toNat + 32 = d.toNat := by
  rw [isLower_iff] at h
  rw [← Char.toNat_inj, ← Char.toNat_inj, toNat_toLower]
  split <;> omega

theorem digitValue?_toLower (c : Char) : digitValue? c.toLower = digitValue? c := by
  simp only [digitValue?, isDigit_iff, isLower_iff, isUpper_iff, toNat_toLower]
  split <;> split_ifs <;> first | rfl | omega

theorem toLower_eq_zero_iff : c.toLower = '0' ↔ c = '0' := by
  have hzero : '0'.toNat = 48 := rfl
  rw [← Char.toNat_inj, ← Char.toNat_inj, toNat_toLower, hzero]
  split <;> omega

/-- A digit of a base is a letter or a digit. -/
theorem isAlphanum_of_digitValue? {value : Nat} (h : digitValue? c = some value) :
    c.isAlphanum = true := by
  simp only [digitValue?] at h
  rw [isAlphanum_iff]
  split_ifs at h <;> simp_all

theorem IsSign.not_isAlphanum (h : IsSign c) : c.isAlphanum = false := by
  rcases h with rfl | rfl <;> rfl

theorem IsExponentMark.isAlphanum (h : IsExponentMark c) : c.isAlphanum = true := by
  rcases h with rfl | rfl <;> rfl

theorem IsExponentMark.ne_underscore (h : IsExponentMark c) : c ≠ '_' := by
  rcases h with rfl | rfl <;> decide

theorem isAlphanum_of_isDigit (h : c.isDigit = true) : c.isAlphanum = true := by
  rw [Char.isAlphanum, h, Bool.or_true]

/-! ## Numerals -/

theorem mem_of_readDigits {base before value : Nat} (h : readDigits base before cs = some value) :
    ∀ c ∈ cs, ∃ d < base, digitValue? c = some d := by
  induction cs generalizing before with
  | nil => exact List.forall_mem_nil _
  | cons c cs ih =>
    simp only [readDigits] at h
    split at h
    · next d hd =>
      split at h
      · next hlt => exact List.forall_mem_cons.2 ⟨⟨d, hlt, hd⟩, ih h⟩
      · cases h
    · cases h

theorem mem_of_numeral? {base value : Nat} (h : numeral? base cs = some value) :
    cs ≠ [] ∧ ∀ c ∈ cs, ∃ d < base, digitValue? c = some d := by
  cases cs with
  | nil => cases h
  | cons c cs => exact ⟨List.cons_ne_nil c cs, mem_of_readDigits h⟩

theorem isExponent_of_exponent? {value : Int} (h : Double.exponent? cs = some value) :
    IsExponent cs := by
  cases cs with
  | nil => exact .none
  | cons mark rest =>
    simp only [Double.exponent?] at h
    split at h
    · next hmark =>
      split at h
      · next digits =>
        split at h
        · next hd => exact .signed hmark (.inl rfl) (List.all_eq_true.1 hd.2) hd.1
        · cases h
      · next digits =>
        split at h
        · next hd => exact .signed hmark (.inr rfl) (List.all_eq_true.1 hd.2) hd.1
        · cases h
      · next digits _ _ =>
        split at h
        · next hd => exact .unsigned hmark (List.all_eq_true.1 hd.2) hd.1
        · cases h
    · cases h

theorem areDigits_of_spanDigits (h : Double.spanDigits cs = (digits, rest)) :
    AreDigits digits ∧ cs = digits ++ rest := by
  cases h
  exact ⟨fun _ h => List.all_eq_true.1 List.all_takeWhile _ h,
    List.takeWhile_append_dropWhile.symm⟩

theorem isNumeral_of_unsigned? {negative : Bool} (h : Double.unsigned? negative cs = some x) :
    IsNumeral cs := by
  rw [Double.unsigned?] at h
  split at h
  next whole behind hspan =>
  split at h
  next fraction tail hfraction =>
  split at h
  · cases h
  next hne =>
  obtain ⟨exponent, hexponent, -⟩ := Option.map_eq_some_iff.1 h
  have htail := isExponent_of_exponent? hexponent
  obtain ⟨hwhole, rfl⟩ := areDigits_of_spanDigits hspan
  split at hfraction
  · obtain ⟨hdigits, rfl⟩ := areDigits_of_spanDigits hfraction
    exact .pointed hwhole hdigits (by tauto) htail
  · cases hfraction
    exact .whole hwhole (by tauto) htail

/-- A numeral that is no number of another base. -/
theorem isNumeral_of_decimal? (hhead : ∀ c, cs.head? = some c → ¬IsSign c)
    (h : Double.decimal? cs = some x) : IsNumeral cs := by
  obtain ⟨hread, -⟩ := Option.filter_eq_some_iff.1 h
  split at hread
  · exact absurd (.inl rfl) (hhead _ rfl)
  · exact absurd (.inr rfl) (hhead _ rfl)
  · exact isNumeral_of_unsigned? hread

theorem isNumeral_of_basedDouble? {lower : Char} (upper : Char) {base : Nat}
    (hcs : cs.map Char.toLower = '0' :: lower :: digits) (hlower : lower.isLower = true)
    (hupper : upper.toNat + 32 = lower.toNat)
    (hbases : (lower, base) ∈ bases ∧ (upper, base) ∈ bases)
    (h : basedDouble? base digits = some x) : IsNumeral cs := by
  rw [List.map_eq_cons_iff] at hcs
  obtain ⟨zero, rest, rfl, hzero, hrest⟩ := hcs
  obtain ⟨mark, digits, rfl, hmark, rfl⟩ := List.map_eq_cons_iff.1 hrest
  obtain rfl := toLower_eq_zero_iff.1 hzero
  have hmark : (mark, base) ∈ bases := by
    rcases (toLower_eq_iff hlower).1 hmark with rfl | hmark
    · exact hbases.1
    · obtain rfl : mark = upper := Char.toNat_inj.1 (by omega)
      exact hbases.2
  obtain ⟨value, hvalue, -⟩ := Option.bind_eq_some_iff.1 h
  obtain ⟨hne, hdigits⟩ := mem_of_numeral? hvalue
  refine .based hmark (fun c hc => ?_) (by simpa using hne)
  rw [← digitValue?_toLower]
  exact hdigits _ (List.mem_map_of_mem hc)

/-- What is worth a double is a numeral, if it does not begin with a sign. -/
theorem isNumeral_of_numeralDouble? (hhead : ∀ c, cs.head? = some c → ¬IsSign c)
    (h : numeralDouble? cs = some x) : IsNumeral cs := by
  rw [numeralDouble?] at h
  split at h
  · next hcs =>
    exact isNumeral_of_basedDouble? 'X' hcs rfl rfl (by simp [bases]) h
  · next hcs =>
    exact isNumeral_of_basedDouble? 'B' hcs rfl rfl (by simp [bases]) h
  · next hcs =>
    exact isNumeral_of_basedDouble? 'O' hcs rfl rfl (by simp [bases]) h
  · exact isNumeral_of_decimal? hhead h

theorem IsExponent.characters (h : IsExponent cs) :
    ∀ c ∈ cs, c.isDigit = true ∨ c = '.' ∨ IsExponentMark c ∨ IsSign c := by
  intro c hc
  cases h with
  | none => cases hc
  | unsigned hmark hdigits =>
    rcases List.mem_cons.1 hc with rfl | hc
    · exact .inr (.inr (.inl hmark))
    · exact .inl (hdigits c hc)
  | signed hmark hsign hdigits =>
    rcases List.mem_cons.1 hc with rfl | hc
    · exact .inr (.inr (.inl hmark))
    rcases List.mem_cons.1 hc with rfl | hc
    · exact .inr (.inr (.inr hsign))
    · exact .inl (hdigits c hc)

/-- A numeral is made of digits, points, exponents' marks and signs, or one of another base. -/
theorem IsNumeral.characters (h : IsNumeral cs) :
    (∀ c ∈ cs, c.isDigit = true ∨ c = '.' ∨ IsExponentMark c ∨ IsSign c) ∨
      ∃ mark base digits, cs = '0' :: mark :: digits ∧ (mark, base) ∈ bases ∧
        ∀ c ∈ digits, ∃ d < base, digitValue? c = some d := by
  cases h with
  | whole hdigits _ hexp =>
    exact .inl (List.forall_mem_append.2 ⟨fun c hc => .inl (hdigits c hc), hexp.characters⟩)
  | pointed hwhole hfraction _ hexp =>
    refine .inl (List.forall_mem_append.2 ⟨fun c hc => .inl (hwhole c hc), ?_⟩)
    refine List.forall_mem_cons.2 ⟨.inr (.inl rfl), ?_⟩
    exact List.forall_mem_append.2 ⟨fun c hc => .inl (hfraction c hc), hexp.characters⟩
  | based hmark hdigits _ => exact .inr ⟨_, _, _, rfl, hmark, hdigits⟩

/-- A numeral of another base is made of letters and digits. -/
theorem isAlphanum_of_based {mark : Char} {base : Nat} (hmark : (mark, base) ∈ bases)
    (hdigits : ∀ c ∈ digits, ∃ d < base, digitValue? c = some d) :
    ∀ c ∈ '0' :: mark :: digits, c.isAlphanum = true := by
  refine List.forall_mem_cons.2 ⟨rfl, List.forall_mem_cons.2 ⟨?_, fun c hc => ?_⟩⟩
  · have hmarks : ∀ entry ∈ bases, entry.1.isAlphanum = true := by decide
    exact hmarks _ hmark
  · obtain ⟨d, -, hd⟩ := hdigits c hc
    exact isAlphanum_of_digitValue? hd

theorem AreDigits.exists_last (front : List Char) (h : AreDigits digits) (hne : digits ≠ []) :
    ∃ last, (front ++ digits).getLast? = some last ∧ last.isDigit = true := by
  refine ⟨digits.getLast hne, ?_, h _ (List.getLast_mem hne)⟩
  rw [List.getLast?_append_of_ne_nil front hne, List.getLast?_eq_some_getLast hne]

theorem IsExponent.exists_last (front : List Char) (h : IsExponent cs) (hne : cs ≠ []) :
    ∃ last, (front ++ cs).getLast? = some last ∧ last.isDigit = true := by
  cases h with
  | none => exact absurd rfl hne
  | @unsigned mark _ _ hdigits hsome => simpa using hdigits.exists_last (front ++ [mark]) hsome
  | @signed mark sign _ _ _ hdigits hsome =>
    simpa using hdigits.exists_last (front ++ [mark, sign]) hsome

/-- A decimal numeral ends with a digit or a point. -/
theorem IsNumeral.last (h : IsNumeral cs) :
    ∃ last, cs.getLast? = some last ∧ (last.isDigit = true ∨ last = '.' ∨
      last.isAlphanum = true ∧ ∃ mark base digits, cs = '0' :: mark :: digits ∧
        (mark, base) ∈ bases) := by
  cases h with
  | @whole digits exponent hall hne hexp =>
    by_cases hempty : exponent = []
    · obtain ⟨last, hlast, hdigit⟩ := hall.exists_last [] hne
      exact ⟨last, by simpa [hempty] using hlast, .inl hdigit⟩
    · obtain ⟨last, hlast, hdigit⟩ := hexp.exists_last digits hempty
      exact ⟨last, hlast, .inl hdigit⟩
  | @pointed whole fraction exponent _ hall _ hexp =>
    rw [← List.singleton_append, ← List.append_assoc, ← List.append_assoc]
    by_cases hempty : exponent = []
    · by_cases hfraction : fraction = []
      · exact ⟨'.', by simp [hempty, hfraction], .inr (.inl rfl)⟩
      · obtain ⟨last, hlast, hdigit⟩ := hall.exists_last (whole ++ ['.']) hfraction
        exact ⟨last, by simpa [hempty] using hlast, .inl hdigit⟩
    · obtain ⟨last, hlast, hdigit⟩ := hexp.exists_last (whole ++ ['.'] ++ fraction) hempty
      exact ⟨last, hlast, .inl hdigit⟩
  | @based mark base digits hmark hall hne =>
    obtain ⟨d, -, hd⟩ := hall _ (List.getLast_mem hne)
    refine ⟨digits.getLast hne, ?_, .inr (.inr ⟨isAlphanum_of_digitValue? hd, mark, base, digits,
      rfl, hmark⟩)⟩
    exact (List.getLast?_append_of_ne_nil ['0', mark] hne).trans (List.getLast?_eq_some_getLast hne)

/-- A numeral begins with a digit or a point. -/
theorem IsNumeral.head (h : IsNumeral cs) :
    ∃ c rest, cs = c :: rest ∧ (c.isDigit = true ∨ c = '.') := by
  cases h with
  | @whole digits exponent hdigits hne _ =>
    obtain ⟨c, digits, rfl⟩ := List.exists_cons_of_ne_nil hne
    exact ⟨c, digits ++ exponent, rfl, .inl (hdigits c List.mem_cons_self)⟩
  | @pointed whole fraction exponent hwhole _ _ _ =>
    cases whole with
    | nil => exact ⟨_, _, rfl, .inr rfl⟩
    | cons c whole => exact ⟨c, _, rfl, .inl (hwhole c List.mem_cons_self)⟩
  | based => exact ⟨_, _, rfl, .inl rfl⟩

/-! ## Gathering a numeral -/

/-- The character goes on with the numeral that `before` begins. -/
def goesOn (before : List Char) (c : Char) : Bool :=
  c.isAlphanum || c == '.' || c == '_' ||
    ((c == '-' || c == '+') && (before.getLast? == some 'e' || before.getLast? == some 'E') &&
      !(['0', 'x'].isPrefixOf before))

/-- Each character of the text goes on with what stands before it. -/
def GoesOn (before text : List Char) : Prop :=
  ∀ passed c more, text = passed ++ c :: more → goesOn (before ++ passed) c = true

theorem goesOn_nil (before : List Char) : GoesOn before [] := by
  intro passed c more h
  simp at h

theorem goesOn_cons :
    GoesOn before (c :: text) ↔ goesOn before c = true ∧ GoesOn (before ++ [c]) text := by
  constructor
  · intro h
    refine ⟨by simpa using h [] c text rfl, fun passed d more htext => ?_⟩
    rw [List.append_assoc]
    exact h (c :: passed) d more (by rw [htext]; rfl)
  · rintro ⟨hc, htext⟩ passed d more h
    cases passed with
    | nil =>
      obtain ⟨rfl, -⟩ := List.cons.inj h
      rwa [List.append_nil]
    | cons first passed =>
      obtain ⟨rfl, rfl⟩ := List.cons.inj h
      have := htext passed d more rfl
      rwa [List.append_assoc] at this

theorem goesOn_append {more : List Char} :
    GoesOn before (text ++ more) ↔ GoesOn before text ∧ GoesOn (before ++ text) more := by
  induction text generalizing before with
  | nil => simp [goesOn_nil]
  | cons c text ih =>
    rw [List.cons_append, goesOn_cons, ih, goesOn_cons, List.append_assoc, List.singleton_append,
      and_assoc]

theorem takeNumeral_cons (before : List Char) (c : Char) (rest : List Char) :
    takeNumeral before.reverse (c :: rest) =
      if goesOn before c then takeNumeral (before ++ [c]).reverse rest else (before, c :: rest) := by
  rw [takeNumeral, goesOn, List.reverse_append, List.reverse_reverse, List.head?_reverse]
  rfl

/-- What goes on with the numeral is gathered. -/
theorem takeNumeral_append (h : GoesOn before text) (rest : List Char) :
    takeNumeral before.reverse (text ++ rest) = takeNumeral (before ++ text).reverse rest := by
  induction text generalizing before with
  | nil => rw [List.nil_append, List.append_nil]
  | cons c text ih =>
    obtain ⟨hc, htext⟩ := goesOn_cons.1 h
    rw [List.cons_append, takeNumeral_cons, if_pos hc, ih htext, List.append_assoc,
      List.singleton_append]

theorem takeNumeral_of_halts (h : Halts (goesOn before) rest) :
    takeNumeral before.reverse rest = (before, rest) := by
  cases rest with
  | nil => simp [takeNumeral]
  | cons c rest => rw [takeNumeral_cons, halts_cons.1 h, if_neg Bool.false_ne_true]

theorem exists_takeNumeral (before cs : List Char) :
    ∃ text rest, cs = text ++ rest ∧ GoesOn before text ∧ Halts (goesOn (before ++ text)) rest ∧
      takeNumeral before.reverse cs = (before ++ text, rest) := by
  induction cs generalizing before with
  | nil => exact ⟨[], [], rfl, goesOn_nil before, halts_nil, by simp [takeNumeral]⟩
  | cons c cs ih =>
    rw [takeNumeral_cons]
    split
    · next hc =>
      obtain ⟨text, rest, rfl, htext, hrest, htaken⟩ := ih (before ++ [c])
      rw [List.append_assoc] at hrest htaken
      exact ⟨c :: text, rest, rfl, goesOn_cons.2 ⟨hc, htext⟩, hrest, htaken⟩
    · next hc =>
      exact ⟨[], c :: cs, rfl, goesOn_nil before, by simpa using hc, by simp⟩

/-! ## Numbers that are read -/

theorem mem_withoutUnderscores : c ∈ withoutUnderscores text ↔ c ∈ text ∧ c ≠ '_' := by
  simp [withoutUnderscores]

/-- A number begins with a digit or a point, or with an underscore. -/
theorem IsNumber.head (h : IsNumber text x) :
    ∃ c rest, text = c :: rest ∧ (c.isDigit = true ∨ c = '.' ∨ c = '_') := by
  obtain ⟨first, digits, hclean, hfirst⟩ := h.numeral.head
  cases text with
  | nil => cases hclean
  | cons c text =>
    refine ⟨c, text, rfl, ?_⟩
    by_cases hc : c = '_'
    · exact .inr (.inr hc)
    · rw [withoutUnderscores, List.filter_cons_of_pos (by simpa using hc)] at hclean
      obtain rfl := (List.cons.inj hclean).1
      tauto

theorem isIdentifierCharacter_of_isDigit (h : c.isDigit = true) : isIdentifierCharacter c = true := by
  have hlow : c.toNat < 0x80 := Nat.lt_of_le_of_lt (isDigit_iff.1 h).2 (by decide)
  simp [isIdentifierCharacter, isAlphanumeric, isNumeric, hlow, h]

theorem IsNumber.halts_isBlank (h : IsNumber text x) (rest : List Char) :
    Halts isBlank (text ++ rest) := by
  obtain ⟨c, digits, rfl, hc⟩ := h.head
  rw [List.cons_append, halts_cons]
  rcases hc with hc | rfl | rfl
  · exact isBlank_of_isIdentifierCharacter (isIdentifierCharacter_of_isDigit hc)
  · exact isBlank_of_printed (by decide)
  · exact isBlank_of_isIdentifierCharacter rfl

/-- The characters of a number are gathered as a whole. -/
theorem IsNumber.goesOn (h : IsNumber text x) : GoesOn [] text := by
  intro passed c more htext
  have hc : c ∈ text := by simp [htext]
  rw [List.nil_append, Literal.goesOn]
  by_cases hunderscore : c = '_'
  · simp [hunderscore]
  have hclean := mem_withoutUnderscores.2 ⟨hc, hunderscore⟩
  rcases h.numeral.characters with hdecimal | ⟨mark, base, digits, hbased, hmark, hdigits⟩
  · rcases hdecimal c hclean with hdigit | rfl | hmark | hsign
    · simp [isAlphanum_of_isDigit hdigit]
    · rfl
    · simp [hmark.isAlphanum]
    · obtain ⟨mark, hlast, hmark⟩ := h.signs passed c more htext hsign
      have hprefix : ['0', 'x'].isPrefixOf passed = false := by
        -- an `x` would make it a number of another base, and those have no signs
        by_contra hprefix
        obtain ⟨digits, rfl⟩ := List.isPrefixOf_iff_prefix.1 (Bool.of_not_eq_false hprefix)
        rcases hdecimal 'x' (mem_withoutUnderscores.2 ⟨by simp [htext], by decide⟩) with
          hx | hx | hx | hx
        · cases hx
        · cases hx
        · rcases hx with hx | hx <;> cases hx
        · rcases hx with hx | hx <;> cases hx
      rw [hlast, hprefix]
      rcases hsign with rfl | rfl <;> rcases hmark with rfl | rfl <;> rfl
  · simp [isAlphanum_of_based hmark hdigits c (hbased ▸ hclean)]

/-- Characters that go on with one another are a number, if they are worth one. -/
theorem isNumber_of_goesOn (h : GoesOn [] text)
    (hvalue : numeralDouble? (withoutUnderscores text) = some x) : IsNumber text x := by
  have hsigns : ∀ before sign after, text = before ++ sign :: after → IsSign sign →
      ∃ mark, before.getLast? = some mark ∧ IsExponentMark mark := by
    intro before sign after htext hsign
    have hgoes := h before sign after htext
    rw [List.nil_append, goesOn, hsign.not_isAlphanum] at hgoes
    have hlast : before.getLast? = some 'e' ∨ before.getLast? = some 'E' := by
      rcases hsign with rfl | rfl <;> simp_all
    rcases hlast with hlast | hlast
    · exact ⟨_, hlast, .inl rfl⟩
    · exact ⟨_, hlast, .inr rfl⟩
  refine ⟨isNumeral_of_numeralDouble? (fun sign hhead hsign => ?_) hvalue, hsigns, hvalue⟩
  -- only underscores stand before the first character that stays
  obtain ⟨digits, hclean⟩ := List.head?_eq_some_iff.1 hhead
  obtain ⟨before, after, rfl, hbefore, -⟩ := List.filter_eq_cons_iff.1 hclean
  obtain ⟨mark, hlast, hmark⟩ := hsigns before sign after rfl hsign
  have hunderscore := hbefore mark (List.mem_of_getLast? hlast)
  exact hmark.ne_underscore (by simpa using hunderscore)

/-- **The number at a cursor.**  It may follow blanks, and ends before what does not go on with it. -/
theorem readNumber_eq_ok_iff {c d : Cursor} :
    readNumber c = .ok (x, d) ↔ ∃ blanks text, AreBlanks blanks ∧ IsNumber text x ∧
      c.Moves (blanks ++ text) d ∧ Halts (goesOn text) d.rest := by
  constructor
  · intro h
    obtain ⟨blanks, hblanks, hmoves, -⟩ := c.exists_moves_skipBlanks
    obtain ⟨text, rest, hrest, htext, hends, htaken⟩ := exists_takeNumeral [] c.skipBlanks.rest
    rw [List.reverse_nil, List.nil_append] at htaken
    simp only [readNumber, htaken] at h
    split at h
    · next value hvalue =>
      cases h
      exact ⟨blanks, text, hblanks, isNumber_of_goesOn htext hvalue,
        hmoves.trans (Cursor.moves_after hrest), hends⟩
    · cases h
  · rintro ⟨blanks, text, hblanks, hnumber, hmoves, hends⟩
    obtain ⟨mid, hmid, hmoves⟩ := hmoves.split
    have hskip : c.skipBlanks = mid :=
      Cursor.skipBlanks_of_moves hmid hblanks (hmoves.rest ▸ hnumber.halts_isBlank d.rest)
    have htaken := takeNumeral_append hnumber.goesOn d.rest
    rw [List.reverse_nil, List.nil_append, takeNumeral_of_halts hends] at htaken
    have hvalue := hnumber.value
    rw [withoutUnderscores] at hvalue
    simp only [readNumber, hskip, hmoves.rest, htaken, hvalue]
    rw [(Cursor.moves_after hmoves.rest).final_eq hmoves]

/-! ## What stands behind a number -/

/-- What follows a word or a numeral goes on with neither. -/
def Apart (text rest : List Char) : Prop :=
  EndsWord text → Halts (fun c => isIdentifierCharacter c || c == '.') rest

/-- What follows is taken for more of a word or a numeral, and spoils it: a sign behind the mark of an
exponent, or the letter that word operators begin with. -/
def Clings (text rest : List Char) : Prop :=
  (∃ mark sign, text.getLast? = some mark ∧ IsExponentMark mark ∧ rest.head? = some sign ∧
    IsSign sign) ∨ EndsWord text ∧ rest.head? = some 'i'

theorem isIdentifierCharacter_of_isAlphanum (h : c.isAlphanum = true) :
    isIdentifierCharacter c = true := by
  have hlow : c.toNat < 0x80 := by
    rw [isAlphanum_iff, isUpper_iff, isLower_iff, isDigit_iff] at h
    omega
  have hascii : (c.isAlpha || c.isDigit) = true := h
  simp only [isIdentifierCharacter, isAlphanumeric, isAlphabetic, isNumeric, hlow, if_true, hascii,
    Bool.true_or]

theorem IsNumber.endsWord (h : IsNumber text x) : EndsWord text := by
  obtain ⟨front, last, rfl⟩ : ∃ front last, text = front ++ [last] := by
    obtain ⟨c, more, rfl, -⟩ := h.head
    exact ⟨_, _, (List.dropLast_append_getLast (List.cons_ne_nil c more)).symm⟩
  refine ⟨last, by simp, ?_⟩
  by_cases hunderscore : last = '_'
  · exact .inl (hunderscore ▸ rfl)
  obtain ⟨final, hfinal, hkind⟩ := h.numeral.last
  have hlast : (withoutUnderscores (front ++ [last])).getLast? = some last := by
    simp [withoutUnderscores, hunderscore]
  obtain rfl : last = final := Option.some.inj (hlast.symm.trans hfinal)
  rcases hkind with hdigit | hpoint | ⟨halphanum, -⟩
  · exact .inl (isIdentifierCharacter_of_isDigit hdigit)
  · exact .inr hpoint
  · exact .inl (isIdentifierCharacter_of_isAlphanum halphanum)

/-- A numeral that ends with the mark of an exponent is not decimal, so it takes no sign. -/
theorem not_isNumber_of_sign {sign : Char} {more : List Char} {y : Float} (h : IsNumber text x)
    (hlast : ∃ mark, text.getLast? = some mark ∧ IsExponentMark mark) (hsign : IsSign sign) :
    ¬IsNumber (text ++ sign :: more) y := by
  intro hlonger
  obtain ⟨mark, hmark, hexponent⟩ := hlast
  have hclean : (withoutUnderscores text).getLast? = some mark := by
    obtain ⟨front, rfl⟩ := List.getLast?_eq_some_iff.1 hmark
    simp [withoutUnderscores, hexponent.ne_underscore]
  obtain ⟨last, hlast, hkind⟩ := h.numeral.last
  obtain rfl : mark = last := Option.some.inj (hclean.symm.trans hlast)
  have hbased : ∃ mark base digits, withoutUnderscores text = '0' :: mark :: digits ∧
      (mark, base) ∈ bases := by
    rcases hkind with hdigit | hpoint | ⟨-, hbased⟩
    · rcases hexponent with rfl | rfl <;> cases hdigit
    · rcases hexponent with rfl | rfl <;> cases hpoint
    · exact hbased
  obtain ⟨letter, base, digits, hdigits, hletter⟩ := hbased
  have hmem : letter ∈ withoutUnderscores (text ++ sign :: more) := by
    rw [withoutUnderscores, List.filter_append, ← withoutUnderscores, hdigits]
    simp
  have hmemsign : sign ∈ withoutUnderscores (text ++ sign :: more) := by
    refine mem_withoutUnderscores.2 ⟨by simp, ?_⟩
    rintro rfl
    rcases hsign with h | h <;> cases h
  have hneither : ∀ entry ∈ bases, ¬(entry.1.isDigit = true ∨ entry.1 = '.' ∨
      IsExponentMark entry.1 ∨ IsSign entry.1) := by
    simp only [IsExponentMark, IsSign]
    decide
  rcases hlonger.numeral.characters with hdecimal | ⟨mark, base, digits, hbased, hmark, hdigits⟩
  · exact hneither _ hletter (hdecimal letter hmem)
  · have halphanum := isAlphanum_of_based hmark hdigits sign (hbased ▸ hmemsign)
    rw [hsign.not_isAlphanum] at halphanum
    cases halphanum

/-- No numeral holds the letter that word operators begin with. -/
theorem IsNumeral.not_mem (h : IsNumeral cs) : 'i' ∉ cs := by
  intro hmem
  rcases h.characters with hdecimal | ⟨mark, base, digits, rfl, hmark, hdigits⟩
  · rcases hdecimal 'i' hmem with hi | hi | (hi | hi) | hi | hi <;> cases hi
  · have hmarks : ∀ entry ∈ bases, entry.1 ≠ 'i' ∧ entry.2 ≤ 16 := by decide
    obtain ⟨hne, hbase⟩ := hmarks _ hmark
    rcases List.mem_cons.1 hmem with hzero | hmem
    · cases hzero
    rcases List.mem_cons.1 hmem with hi | hmem
    · exact hne hi.symm
    · obtain ⟨d, hd, hvalue⟩ := hdigits 'i' hmem
      obtain rfl : 18 = d := Option.some.inj hvalue
      dsimp only at hbase
      omega

/-- What clings to a number makes no other number of it. -/
theorem not_isNumber_of_clings {next : Char} {more : List Char} {y : Float} (h : IsNumber text x)
    (hclings : Clings text (next :: more)) (further : List Char) :
    ¬IsNumber (text ++ next :: further) y := by
  rcases hclings with ⟨mark, sign, hlast, hmark, ⟨⟩, hsign⟩ | ⟨-, ⟨⟩⟩
  · exact not_isNumber_of_sign h ⟨mark, hlast, hmark⟩ hsign
  · intro hlonger
    exact hlonger.numeral.not_mem (mem_withoutUnderscores.2 ⟨by simp, by decide⟩)

/-- What goes on with a number and stands apart from it is a sign that clings to it. -/
theorem clings_of_apart {next : Char} {more : List Char} (h : IsNumber text x)
    (hapart : Apart text (next :: more)) (hgoes : goesOn text next = true) :
    Clings text (next :: more) := by
  have hsep : isIdentifierCharacter next = false ∧ next ≠ '.' := by
    simpa using hapart h.endsWord next rfl
  have halphanum : next.isAlphanum = false :=
    Bool.eq_false_iff.2 fun hnext => by simp [isIdentifierCharacter_of_isAlphanum hnext] at hsep
  have hunderscore : next ≠ '_' := by
    rintro rfl
    cases hsep.1
  simp only [goesOn, halphanum, beq_false_of_ne hsep.2, beq_false_of_ne hunderscore,
    Bool.false_or, Bool.and_eq_true, Bool.or_eq_true, beq_iff_eq] at hgoes
  obtain ⟨⟨hsign, hlast⟩, -⟩ := hgoes
  rcases hlast with hlast | hlast
  · exact .inl ⟨_, next, hlast, .inl rfl, rfl, hsign⟩
  · exact .inl ⟨_, next, hlast, .inr rfl, rfl, hsign⟩

/-- A number is read if what follows stands apart from it.  What clings to it is read with it, and
then both are refused. -/
theorem readNumber_of_isNumber {c d : Cursor} {blanks : List Char} (hblanks : AreBlanks blanks)
    (h : IsNumber text x) (hmoves : c.Moves (blanks ++ text) d)
    (hapart : Apart text d.rest ∨ Clings text d.rest) :
    readNumber c = .ok (x, d) ∨ Clings text d.rest ∧ ∃ fault, readNumber c = .error fault := by
  by_cases hends : Halts (goesOn text) d.rest
  · exact .inl (readNumber_eq_ok_iff.2 ⟨blanks, text, hblanks, h, hmoves, hends⟩)
  right
  obtain ⟨next, hhead, hgoes⟩ : ∃ next, d.rest.head? = some next ∧ goesOn text next = true := by
    simpa [Halts] using hends
  obtain ⟨behind, hbehind⟩ := List.head?_eq_some_iff.1 hhead
  rw [hbehind] at hapart ⊢
  have hclings : Clings text (next :: behind) :=
    hapart.elim (fun hapart => clings_of_apart h hapart hgoes) id
  refine ⟨hclings, ?_⟩
  obtain ⟨mid, hmid, hmoves⟩ := hmoves.split
  have hskip : c.skipBlanks = mid :=
    Cursor.skipBlanks_of_moves hmid hblanks (hmoves.rest ▸ h.halts_isBlank d.rest)
  -- the character is gathered, and more behind it
  have htaken : GoesOn [] (text ++ [next]) :=
    goesOn_append.2 ⟨h.goesOn, goesOn_cons.2 ⟨hgoes, goesOn_nil _⟩⟩
  obtain ⟨more, rest, -, hmore, -, hgathered⟩ := exists_takeNumeral (text ++ [next]) behind
  have hall := takeNumeral_append htaken behind
  rw [List.nil_append, hgathered, List.append_assoc, List.append_assoc, List.singleton_append,
    List.singleton_append, ← hbehind, ← hmoves.rest, List.reverse_nil] at hall
  have hlonger : GoesOn [] (text ++ next :: more) := by
    rw [← List.singleton_append, ← List.append_assoc]
    exact goesOn_append.2 ⟨htaken, hmore⟩
  simp only [readNumber, hskip, hall]
  split
  · next value hvalue =>
    exact absurd (isNumber_of_goesOn hlonger hvalue) (not_isNumber_of_clings h hclings more)
  · exact ⟨_, rfl⟩

end TypeSchema.Literal
