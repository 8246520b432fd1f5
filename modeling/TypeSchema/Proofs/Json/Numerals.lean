import Mathlib.Tactic.IntervalCases
import TypeSchema.Json.Draft
import TypeSchema.Json.Printer

/-!
# Numerals are read back

A number is written as a literal that the reader takes as a whole: no needless zero in front, digits on
both sides of a point, and an exponent with its sign.  `Numeral` is such a literal in parts, and
`Numeral.readNumber_text` says that it is read as what its parts are worth, as long as what follows does
not go on with it.

That every number is written like this (`Json.exists_numeral`) is clear from the layouts, but for one
thing: the shortest decimal of a double that is not zero is not zero either
(`Double.Parts.digits_shortest_ne_zero`).  What a number is read back as is `Number.reread?`.  For
an integer of 64 bits it is the number; for a double it may be one that stands beside it, or none.
-/

set_option autoImplicit false

namespace TypeSchema

/-! ## Literals in parts -/

/-- A number literal in parts.  An exponent has its sign and its digits. -/
structure Numeral where
  negative : Bool := false
  whole : List Char
  fraction : Option (List Char) := none
  exponent : Option (Bool × List Char) := none

namespace Numeral

/-- Digits, and at least one of them. -/
def IsDigits (cs : List Char) : Prop :=
  cs ≠ [] ∧ ∀ c ∈ cs, c.isDigit = true

/-- The exponent, with its sign. -/
def exponentText : Option (Bool × List Char) → List Char
  | none => []
  | some (negative, digits) => 'e' :: (if negative then '-' else '+') :: digits

/-- The fraction, with its point. -/
def fractionText : Option (List Char) → List Char
  | none => []
  | some digits => '.' :: digits

/-- The literal. -/
def text (n : Numeral) : List Char :=
  (if n.negative then ['-'] else []) ++ n.whole ++ fractionText n.fraction ++ exponentText n.exponent

/-- The literal is one of JSON. -/
structure Valid (n : Numeral) : Prop where
  whole : IsDigits n.whole
  leading : n.whole.head? = some '0' → n.whole = ['0']
  fraction : ∀ digits, n.fraction = some digits → IsDigits digits
  exponent : ∀ negative digits, n.exponent = some (negative, digits) → IsDigits digits

/-- What the exponent is worth. -/
def exponentValue : Bool × List Char → Int
  | (negative, digits) =>
    if negative then -(Double.digitsValue 0 digits : Int) else Double.digitsValue 0 digits

/-- What the literal is worth. -/
def value? (n : Numeral) : Option Number :=
  Draft.numberOf n.negative n.whole n.fraction (n.exponent.map exponentValue)

/-- What follows does not go on with a number. -/
def Ends (rest : List Char) : Prop :=
  ∀ c, rest.head? = some c → c.isDigit = false ∧ c ≠ '.' ∧ c ≠ 'e' ∧ c ≠ 'E'

theorem ends_nil : Ends [] := nofun

variable {n : Numeral} {cs rest : List Char}

theorem spanDigits_append (hcs : ∀ c ∈ cs, c.isDigit = true)
    (hrest : ∀ c, rest.head? = some c → c.isDigit = false) :
    Double.spanDigits (cs ++ rest) = (cs, rest) := by
  rw [Double.spanDigits, List.takeWhile_append_of_pos hcs, List.dropWhile_append_of_pos hcs]
  cases rest with
  | nil => simp
  | cons c rest => simp [hrest c rfl]

theorem readExponent_text (negative : Bool) {digits : List Char} (hdigits : IsDigits digits)
    (hends : Ends rest) :
    Draft.readExponent ((if negative then '-' else '+') :: digits ++ rest) =
      some (exponentValue (negative, digits), rest) := by
  have hspan := spanDigits_append hdigits.2 fun c hc => (hends c hc).1
  cases negative with
  | true => simp [Draft.readExponent, hspan, hdigits.1, exponentValue]
  | false => simp [Draft.readExponent, hspan, hdigits.1, exponentValue]

theorem readOptionalExponent_text {exponent : Option (Bool × List Char)}
    (hexponent : ∀ negative digits, exponent = some (negative, digits) → IsDigits digits)
    (hends : Ends rest) :
    Draft.readOptionalExponent (exponentText exponent ++ rest) =
      some (exponent.map exponentValue, rest) := by
  cases exponent with
  | some parts =>
    obtain ⟨negative, digits⟩ := parts
    have hread := readExponent_text negative (hexponent negative digits rfl) hends
    simp only [exponentText, List.cons_append] at hread ⊢
    simp [Draft.readOptionalExponent, hread]
  | none =>
    cases rest with
    | nil => rfl
    | cons c rest =>
      obtain ⟨_, _, he, hE⟩ := hends c rfl
      simp [exponentText, Draft.readOptionalExponent, he, hE]

/-- What stands after the digits of a literal is no digit. -/
theorem head?_exponentText (exponent : Option (Bool × List Char)) (hends : Ends rest) :
    ∀ c, (exponentText exponent ++ rest).head? = some c → c.isDigit = false ∧ c ≠ '.' := by
  intro c hc
  cases exponent with
  | some parts =>
    cases hc
    decide
  | none => exact ⟨(hends c hc).1, (hends c hc).2.1⟩

/-- **A literal is read** as what its parts are worth. -/
theorem readNumber_text (h : n.Valid) (hends : Ends rest) :
    Draft.readNumber (n.text ++ rest) = some (n.value?, rest) := by
  obtain ⟨negative, whole, fraction, exponent⟩ := n
  obtain ⟨⟨hne, hwhole⟩, hleading, hfraction, hexponent⟩ := h
  have hread := readOptionalExponent_text hexponent hends
  have hafter := head?_exponentText exponent hends
  obtain ⟨first, more, rfl⟩ := List.exists_cons_of_ne_nil hne
  have hfirst : first ≠ '-' := by
    rintro rfl
    cases hwhole '-' List.mem_cons_self
  have hzero : ¬(first = '0' ∧ more ≠ []) := by
    rintro ⟨rfl, hmore⟩
    exact hmore (List.cons.inj (hleading rfl)).2
  have hspan : Double.spanDigits
      (first :: (more ++ (fractionText fraction ++ (exponentText exponent ++ rest)))) =
        (first :: more, fractionText fraction ++ (exponentText exponent ++ rest)) := by
    refine spanDigits_append hwhole fun c hc => ?_
    cases fraction with
    | some digits =>
      cases hc
      decide
    | none => exact (hafter c hc).1
  have hsigned : Draft.readNumber (text ⟨negative, first :: more, fraction, exponent⟩ ++ rest) =
      Draft.readNumber ((if negative then ['-'] else []) ++
        first :: (more ++ (fractionText fraction ++ (exponentText exponent ++ rest)))) := by
    simp [text]
  rw [hsigned]
  dsimp only at hread
  cases fraction with
  | some digits =>
    obtain ⟨hne', hdigits⟩ := hfraction digits rfl
    have hrest := spanDigits_append hdigits fun c hc => (hafter c hc).1
    simp only [fractionText, List.cons_append] at hspan ⊢
    cases negative <;> simp [Draft.readNumber, hspan, hzero, hfirst, hrest, hne', hread, value?]
  | none =>
    simp only [fractionText, List.nil_append] at hspan ⊢
    generalize exponentText exponent ++ rest = tail at hspan hread hafter ⊢
    -- What follows starts with no point, which is what the match on it turns on.
    have hpoint : ∀ r, tail ≠ '.' :: r := fun r heq => (hafter '.' (heq ▸ rfl)).2 rfl
    cases negative <;> simp [Draft.readNumber, hspan, hzero, hfirst, hread, value?]

end Numeral

/-! ## Digits of numbers -/

namespace Numeral

variable {cs more : List Char}

theorem IsDigits.append (h : IsDigits cs) (hmore : ∀ c ∈ more, c.isDigit = true) :
    IsDigits (cs ++ more) :=
  ⟨List.append_ne_nil_of_left_ne_nil h.1 _,
    fun c hc => (List.mem_append.1 hc).elim (h.2 c) (hmore c)⟩

theorem isDigits_of_subset (h : IsDigits cs) (hne : more ≠ []) (hsubset : more ⊆ cs) : IsDigits more :=
  ⟨hne, fun _ hc => h.2 _ (hsubset hc)⟩

theorem isDigits_toDigits (n : Nat) : IsDigits (Nat.toDigits 10 n) :=
  ⟨Nat.toDigits_ne_nil, fun _ hc => Nat.isDigit_of_mem_toDigits (by decide) (by decide) hc⟩

/-- A number that is not zero has no zero in front. -/
theorem head?_toDigits {n : Nat} (h : n ≠ 0) : (Nat.toDigits 10 n).head? ≠ some '0' := by
  induction n using Nat.strong_induction_on with
  | _ n ih =>
    by_cases hlt : n < 10
    · rw [Nat.toDigits_of_lt_base hlt]
      interval_cases n <;> first | exact absurd rfl h | decide
    · rw [Nat.toDigits_of_base_le (by decide) (by omega), List.head?_append]
      have hfirst := ih (n / 10) (by omega) (by omega)
      obtain ⟨c, rest, hc⟩ :=
        List.exists_cons_of_ne_nil (Nat.toDigits_ne_nil (n := n / 10) (b := 10))
      rw [hc] at hfirst ⊢
      exact hfirst

/-- The digits of a number are a literal. -/
theorem valid_toDigits (negative : Bool) (n : Nat) :
    Valid { negative, whole := Nat.toDigits 10 n } where
  whole := isDigits_toDigits n
  leading hzero := by
    by_cases hn : n = 0
    · rw [hn]
      rfl
    · exact absurd hzero (head?_toDigits hn)
  fraction := nofun
  exponent := nofun

end Numeral

/-! ## Decimals -/

namespace Double

open Numeral

theorem isDigit_of_mem_zeros {n : Nat} {c : Char} (h : c ∈ zeros n) : c.isDigit = true := by
  rw [List.eq_of_mem_replicate h]
  decide

section Layouts

variable {digits : List Char}

/-- Digits with zeros after them and an empty fraction. -/
theorem valid_whole (h : IsDigits digits) (hhead : digits.head? ≠ some '0') (n : Nat) :
    Valid { whole := digits ++ zeros n, fraction := some ['0'] } where
  whole := h.append fun _ => isDigit_of_mem_zeros
  leading hzero := by
    obtain ⟨first, more, rfl⟩ := List.exists_cons_of_ne_nil h.1
    exact absurd hzero hhead
  fraction := by
    rintro _ ⟨⟩
    exact ⟨List.cons_ne_nil _ _, List.forall_mem_singleton.2 rfl⟩
  exponent := nofun

/-- Digits with a point among them. -/
theorem valid_point (h : IsDigits digits) (hhead : digits.head? ≠ some '0') {n : Nat}
    (hn : n + 1 < digits.length) :
    Valid { whole := digits.take (n + 1), fraction := some (digits.drop (n + 1)) } where
  whole := isDigits_of_subset h (by simp [h.1]) (List.take_subset _ _)
  leading hzero := by
    obtain ⟨first, more, rfl⟩ := List.exists_cons_of_ne_nil h.1
    exact absurd hzero hhead
  fraction := by
    rintro _ ⟨⟩
    exact isDigits_of_subset h (by simpa using hn) (List.drop_subset _ _)
  exponent := nofun

/-- Digits after a point and zeros. -/
theorem valid_small (h : IsDigits digits) (n : Nat) :
    Valid { whole := ['0'], fraction := some (zeros n ++ digits) } where
  whole := ⟨List.cons_ne_nil _ _, List.forall_mem_singleton.2 rfl⟩
  leading _ := rfl
  fraction := by
    rintro _ ⟨⟩
    exact ⟨List.append_ne_nil_of_right_ne_nil _ h.1, fun c hc =>
      (List.mem_append.1 hc).elim isDigit_of_mem_zeros (h.2 c)⟩
  exponent := nofun

/-- One digit, the others after a point if there are others, and an exponent. -/
theorem valid_scientific {first : Char} {more : List Char} (h : IsDigits (first :: more))
    (hfirst : first ≠ '0') (negative : Bool) (n : Nat) :
    Valid { whole := [first], fraction := if more = [] then none else some more
            exponent := some (negative, Nat.toDigits 10 n) } where
  whole := isDigits_of_subset h (List.cons_ne_nil _ _) (by simp)
  leading hzero := absurd (Option.some.inj hzero) hfirst
  fraction := by
    intro digits hdigits
    split at hdigits
    · cases hdigits
    · cases hdigits
      exact isDigits_of_subset h ‹_› (List.subset_cons_self _ _)
  exponent := by
    rintro _ _ ⟨⟩
    exact isDigits_toDigits n

end Layouts

/-- **A decimal that is not zero** is written as a literal without a sign. -/
theorem Decimal.exists_numeral {d : Decimal} (h : d.digits ≠ 0) :
    ∃ n : Numeral, n.Valid ∧ n.negative = false ∧ (d.text .json).toList = n.text := by
  unfold Decimal.text
  extract_lets digits leading before mantissa exponent
  have hall : IsDigits digits := isDigits_toDigits d.digits
  have hhead : digits.head? ≠ some '0' := head?_toDigits h
  by_cases hpositional : Layout.json.positional leading = true
  · rw [if_pos hpositional]
    by_cases hwhole : d.exponent ≥ 0
    · rw [if_pos hwhole]
      refine ⟨_, valid_whole hall hhead d.exponent.toNat, rfl, ?_⟩
      simp [Numeral.text, fractionText, exponentText, Layout.json]
    · rw [if_neg hwhole]
      by_cases hpoint : leading ≥ 0
      · rw [if_pos hpoint]
        have hbefore : leading.toNat + 1 < digits.length := by omega
        refine ⟨_, valid_point hall hhead hbefore, rfl, ?_⟩
        simp [Numeral.text, fractionText, exponentText, before]
      · rw [if_neg hpoint]
        refine ⟨_, valid_small hall (-leading - 1).toNat, rfl, ?_⟩
        simp [Numeral.text, fractionText, exponentText]
  · rw [if_neg hpositional]
    obtain ⟨first, more, hcons⟩ := List.exists_cons_of_ne_nil hall.1
    rw [hcons] at hall hhead
    have hfirst : first ≠ '0' := fun heq => hhead (congrArg some heq)
    refine ⟨_, valid_scientific hall hfirst (decide (leading < 0)) leading.natAbs, rfl, ?_⟩
    cases more with
    | nil => simp [Numeral.text, fractionText, exponentText, mantissa, exponent, hcons]
    | cons second more => simp [Numeral.text, fractionText, exponentText, mantissa, exponent, hcons]

/-! ## The shortest decimal -/

namespace Interval

variable {i : Interval} {exponent : Int}

theorem floorAt_ne_zero_iff (hpos : 0 < i.denominator) :
    i.floorAt exponent ≠ 0 ↔
      i.denominator * 10 ^ exponent.toNat ≤ i.value * 10 ^ (-exponent).toNat := by
  have hunit : 0 < i.denominator * 10 ^ exponent.toNat := by positivity
  rw [floorAt, ← Nat.pos_iff_ne_zero]
  exact Nat.div_pos_iff.trans (and_iff_right hunit)

/-- On a finer grid there is no less below the value. -/
theorem floorAt_mono (hpos : 0 < i.denominator) {finer : Int} (hfiner : finer ≤ exponent)
    (h : i.floorAt exponent ≠ 0) : i.floorAt finer ≠ 0 := by
  rw [floorAt_ne_zero_iff hpos] at h ⊢
  calc i.denominator * 10 ^ finer.toNat
      ≤ i.denominator * 10 ^ exponent.toNat := by gcongr <;> omega
    _ ≤ i.value * 10 ^ (-exponent).toNat := h
    _ ≤ i.value * 10 ^ (-finer).toNat := by gcongr <;> omega

/-- The search for the leading digit ends where there is one, if there is one within its reach. -/
theorem floorAt_leading (fuel : Nat) (start : Int) (h : i.floorAt (start - fuel) ≠ 0) :
    i.floorAt (i.leading fuel start) ≠ 0 := by
  induction fuel generalizing start with
  | zero => simpa [leading] using h
  | succ fuel ih =>
    rw [leading]
    split
    · refine ih (start - 1) ?_
      rwa [show start - 1 - (fuel : Int) = start - ((fuel + 1 : Nat) : Int) by omega]
    · assumption

theorem digits_neighbour? {tie : Tie} {d : Decimal} (hfloor : i.floorAt exponent ≠ 0)
    (h : i.neighbour? tie exponent = some d) : d.digits ≠ 0 := by
  have hsides : d = ⟨i.floorAt exponent, exponent⟩ ∨ d = ⟨i.floorAt exponent + 1, exponent⟩ := by
    unfold neighbour? at h
    dsimp only at h
    grind
  rcases hsides with rfl | rfl
  · exact hfloor
  · exact Nat.succ_ne_zero _

theorem digits_search {tie : Tie} {leading : Int} (hpos : 0 < i.denominator)
    (h : i.floorAt leading ≠ 0) (fuel count : Nat) (hcount : 0 < count) :
    (i.search tie leading fuel count).digits ≠ 0 := by
  have hfloor : ∀ count : Nat, 0 < count → i.floorAt (leading - count + 1) ≠ 0 := fun count hcount =>
    floorAt_mono hpos (by omega) h
  induction fuel generalizing count with
  | zero => exact hfloor count hcount
  | succ fuel ih =>
    rw [search]
    split
    · exact digits_neighbour? (hfloor count hcount) ‹_›
    · exact ih (count + 1) (Nat.succ_pos _)

end Interval

theorem Decimal.digits_stripZeros {d : Decimal} (h : d.digits ≠ 0) (fuel : Nat) :
    (d.stripZeros fuel).digits ≠ 0 := by
  induction fuel generalizing d with
  | zero => exact h
  | succ fuel ih =>
    rw [stripZeros]
    split
    · exact ih (show d.digits / 10 ≠ 0 by omega)
    · exact h

/-- A number has as many digits as it takes. -/
theorem pow_length_toDigits_le {n : Nat} (h : n ≠ 0) : 10 ^ ((Nat.toDigits 10 n).length - 1) ≤ n := by
  have hpos : 0 < (Nat.toDigits 10 n).length := Nat.length_toDigits_pos
  by_cases hone : (Nat.toDigits 10 n).length - 1 = 0
  · rw [hone]
    omega
  · by_contra hlt
    have := (Nat.length_toDigits_le_iff (by decide) (by omega)).2 (Nat.lt_of_not_le hlt)
    omega

/-- The search for the leading digit of a double reaches it. -/
theorem Parts.floorAt_ne_zero {p : Parts} (h : p.significand ≠ 0) (hexponent : -1074 ≤ p.exponent) :
    p.interval.floorAt
      (((Nat.toDigits 10 (p.interval.value / p.interval.denominator)).length : Int) - 400) ≠ 0 := by
  have hpos : 0 < p.interval.denominator := by
    show 0 < 4 * 2 ^ (-p.exponent).toNat
    positivity
  by_cases hwhole : p.interval.value / p.interval.denominator = 0
  · have hup : (((Nat.toDigits 10 0).length : Int) - 400).toNat = 0 := rfl
    have hdown : (-(((Nat.toDigits 10 0).length : Int) - 400)).toNat = 399 := rfl
    rw [hwhole, Interval.floorAt_ne_zero_iff hpos, hup, hdown, Nat.pow_zero, Nat.mul_one]
    calc p.interval.denominator = 4 * 2 ^ (-p.exponent).toNat := rfl
      _ ≤ 4 * 2 ^ 1074 := by gcongr <;> omega
      _ ≤ 4 * 1 * 1 * 10 ^ 399 := by decide +kernel
      _ ≤ 4 * p.significand * 2 ^ p.exponent.toNat * 10 ^ 399 :=
        Nat.mul_le_mul_right _ (Nat.mul_le_mul (Nat.mul_le_mul_left _ (Nat.pos_of_ne_zero h))
          Nat.one_le_two_pow)
  · have hleading : p.interval.floorAt (((Nat.toDigits 10
        (p.interval.value / p.interval.denominator)).length - 1 : Nat) : Int) ≠ 0 := by
      rw [Interval.floorAt_ne_zero_iff hpos, Int.toNat_natCast, Int.toNat_neg_natCast, Nat.pow_zero,
        Nat.mul_one]
      exact (Nat.mul_le_mul_left _ (pow_length_toDigits_le hwhole)).trans (Nat.mul_div_le _ _)
    exact Interval.floorAt_mono hpos (by omega) hleading

/-- **The shortest decimal** of a double that is not zero is not zero. -/
theorem Parts.digits_shortest_ne_zero {p : Parts} (h : p.significand ≠ 0)
    (hexponent : -1074 ≤ p.exponent) (tie : Tie) : (p.shortest tie).digits ≠ 0 := by
  have hpos : 0 < p.interval.denominator := by
    show 0 < 4 * 2 ^ (-p.exponent).toNat
    positivity
  exact Decimal.digits_stripZeros (Interval.digits_search hpos
    (Interval.floorAt_leading 400 _ (p.floorAt_ne_zero h hexponent)) _ _ Nat.one_pos) _

/-- A finite double has an exponent that the doubles have. -/
theorem exponent_of_parts? {x : Float} {p : Parts} (h : parts? x = some p) : -1074 ≤ p.exponent := by
  unfold parts? at h
  dsimp only at h
  split at h
  · cases h
  · split at h <;> cases h
    · exact le_rfl
    · show (-1074 : Int) ≤ _ - 1075
      omega

/-- **A finite double** is written as a literal. -/
theorem exists_numeral {x : Float} (h : isFinite x = true) :
    ∃ n : Numeral, n.Valid ∧ (text .json x).toList = n.text := by
  obtain ⟨p, hp⟩ := Option.isSome_iff_exists.1 h
  rw [text, hp]
  dsimp only
  by_cases hzero : p.significand = 0
  · rw [if_pos hzero]
    refine ⟨{ negative := p.negative, whole := ['0'], fraction := some ['0'] },
      ⟨⟨List.cons_ne_nil _ _, List.forall_mem_singleton.2 rfl⟩, fun _ => rfl, ?_, nofun⟩, ?_⟩
    · rintro _ ⟨⟩
      exact ⟨List.cons_ne_nil _ _, List.forall_mem_singleton.2 rfl⟩
    · cases p.negative <;> rfl
  · rw [if_neg hzero]
    obtain ⟨n, hvalid, hunsigned, htext⟩ := Decimal.exists_numeral
      (p.digits_shortest_ne_zero hzero (exponent_of_parts? hp) Layout.json.tie)
    refine ⟨{ n with negative := p.negative }, ⟨hvalid.whole, hvalid.leading, hvalid.fraction,
      hvalid.exponent⟩, ?_⟩
    rw [String.toList_append, htext, Numeral.text, hunsigned, Numeral.text]
    cases p.negative <;> rfl

end Double

/-! ## Numbers -/

namespace Number

/-- The number is an integer or a finite double. -/
def IsFinite : Number → Prop
  | .integer _ => True
  | .double x => Double.isFinite x = true

/-- The number that the text of the number is read as; none if it is read as one beyond the doubles. -/
def reread? (n : Number) : Option Number :=
  (Draft.readNumber (Json.numeral n)).bind Prod.fst

/-- The number is read back as itself. -/
def IsStable (n : Number) : Prop :=
  n.reread? = some n

instance : DecidablePred IsStable :=
  fun n => inferInstanceAs (Decidable (n.reread? = some n))

/-- An integer is written as its digits, with its sign. -/
theorem numeral_integer (n : Int) : Json.numeral (integer n) =
    Numeral.text { negative := decide (n < 0), whole := Nat.toDigits 10 n.natAbs } := by
  cases n <;> simp [Json.numeral, Numeral.text, Numeral.fractionText, Numeral.exponentText, toString,
    Int.repr]

/-- A finite number is written as a literal. -/
theorem exists_numeral {n : Number} (h : n.IsFinite) :
    ∃ literal : Numeral, literal.Valid ∧ Json.numeral n = literal.text := by
  cases n with
  | double x => exact Double.exists_numeral h
  | integer n => exact ⟨_, Numeral.valid_toDigits _ _, numeral_integer n⟩

/-- **A finite number is read** from its text as what it is read back as, whatever follows that does not
go on with it. -/
theorem readNumber_numeral {n : Number} (h : n.IsFinite) {rest : List Char}
    (hrest : Numeral.Ends rest) :
    Draft.readNumber (Json.numeral n ++ rest) = some (n.reread?, rest) := by
  obtain ⟨literal, hvalid, htext⟩ := exists_numeral h
  have halone := Numeral.readNumber_text hvalid Numeral.ends_nil
  rw [List.append_nil] at halone
  rw [reread?, htext, Numeral.readNumber_text hvalid hrest, halone]
  rfl

/-! ## Integers -/

theorem le_digitsValue (value : Nat) (digits : List Char) :
    value ≤ Double.digitsValue value digits := by
  induction digits generalizing value with
  | nil => exact le_rfl
  | cons c rest ih =>
    have : value ≤ value * 10 + (c.toNat - 0x30) := by omega
    exact this.trans (ih _)

/-- All digits are kept where their value fits. -/
theorem absorb_eq {value : Nat} {digits : List Char}
    (h : Double.digitsValue value digits ≤ Double.maxWord) :
    Double.absorb value digits = (Double.digitsValue value digits, []) := by
  induction digits generalizing value with
  | nil => rfl
  | cons c rest ih =>
    rw [Double.absorb, if_pos ((le_digitsValue _ rest).trans h), ih h]
    rfl

theorem digitsValue_toDigits (n : Nat) : Double.digitsValue 0 (Nat.toDigits 10 n) = n := by
  have h : Nat.ofDigitChars 10 (Nat.toDigits 10 n) 0 = n :=
    Nat.ofDigitChars_toDigits (by decide) (by decide)
  simpa only [Double.digitsValue, Nat.ofDigitChars, Nat.mul_comm, show '0'.toNat = 0x30 from rfl]
    using h

/-- **An integer of 64 bits** is read back. -/
theorem reread?_integer {n : Int} (hlow : -(UInt64.size / 2 : Nat) ≤ n) (hhigh : n < UInt64.size) :
    (integer n).reread? = some (integer n) := by
  have hread := Numeral.readNumber_text (Numeral.valid_toDigits (decide (n < 0)) n.natAbs)
    Numeral.ends_nil
  have hsize : UInt64.size = 18446744073709551616 := rfl
  have hvalue : Double.digitsValue 0 (Nat.toDigits 10 n.natAbs) ≤ Double.maxWord := by
    rw [digitsValue_toDigits, Double.maxWord]
    omega
  rw [List.append_nil, ← numeral_integer] at hread
  rw [reread?, hread]
  show Draft.numberOf _ _ none none = _
  simp only [Draft.numberOf, absorb_eq hvalue, digitsValue_toDigits, if_true, Draft.integerNumber]
  cases n with
  | ofNat m => simp
  | negSucc m =>
    have hfits : ¬((Int.negSucc m).natAbs = 0 ∨ (Int.negSucc m).natAbs > UInt64.size / 2) := by omega
    simp only [Int.negSucc_lt_zero, decide_true, if_true, if_neg hfits]
    congr 2

/-- **A natural number of 64 bits** is read back. -/
theorem reread?_natCast {n : Nat} (h : n < UInt64.size) :
    (integer n).reread? = some (integer n) :=
  reread?_integer (by omega) (by exact_mod_cast h)

end Number

end TypeSchema
