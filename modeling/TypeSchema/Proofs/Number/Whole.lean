import Mathlib
import TypeSchema.Literal.Basic

/-!
# Whole numbers as doubles

A whole number of at most fifty-three bits is a double, so it survives when it is read as the nearest
double and written as the number that the double is equal to: `Number.ofDouble_ofDecimal`, and with a
minus in front `Number.ofDouble_neg_ofDecimal`.

A numeral without an exponent is read in two steps, and neither rounds.  The number becomes a double
with its significand shifted up to fifty-three bits (`round_of_lt`), which is then multiplied by one;
the product has its significand shifted up once more, and rounding shifts it back
(`roundWithAccuracy_of_isNormal`).  What a double is made of is read off its bits (`parts?_normal`).
-/

set_option autoImplicit false

namespace TypeSchema.Double

open Float.Model Float.Model.UnpackedFloat

variable {negative : Bool} {m n : Nat} {e : Int}

/-! ## The bits of a double -/

/-- The significand of a double that is not among the smallest, and an exponent that doubles have. -/
structure IsNormal (m : Nat) (e : Int) : Prop where
  low : 2 ^ 52 ≤ m
  high : m < 2 ^ 53
  least : -1074 ≤ e
  greatest : e ≤ 971

theorem IsNormal.pos (h : IsNormal m e) : 0 < m :=
  Nat.lt_of_lt_of_le (by decide) h.low

theorem IsNormal.log2_eq (h : IsNormal m e) : m.log2 = 52 :=
  (Nat.log2_eq_iff h.pos.ne').2 ⟨h.low, h.high⟩

/-- The sign bit. -/
def signOf (negative : Bool) : Sign :=
  if negative then .negative else .positive

/-- The double with this sign, significand and exponent, taken apart. -/
def unpacked (negative : Bool) (h : IsNormal m e) : UnpackedFloat :=
  .finite (signOf negative) m e h.pos

/-- The double with this sign, significand and exponent. -/
def normal (negative : Bool) (h : IsNormal m e) : Float :=
  .ofModel (.pack (unpacked negative h))

theorem pack_unpacked (h : IsNormal m e) :
    UnpackedFloat.pack Format.binary64 (unpacked negative h) =
      packComponents Format.binary64 (signOf negative) (BitVec.ofNat 11 (e + 1075).toNat)
        (BitVec.ofNat 52 m) := by
  have hbiased : (e + Format.binary64.exponentBias + Format.binary64.mantissaBitsWithoutImplicit) =
      e + 1075 := by
    show e + 1023 + 52 = _
    omega
  have hfits : ¬2 ^ Format.binary64.exponentBits ≤ (e + 1075).toNat + 1 := by
    have := h.greatest
    show ¬2048 ≤ _
    omega
  have hleading : m.log2 + 1 = Format.binary64.mantissaBits := by
    rw [h.log2_eq]
    rfl
  simp only [unpacked, UnpackedFloat.pack, hbiased, if_neg hfits, if_pos hleading]

/-- The bits of a double, as one number. -/
theorem toNat_toBits_normal (negative : Bool) (h : IsNormal m e) :
    (normal negative h).toBits.toNat =
      (negative.toNat * 2 ^ 11 + (e + 1075).toNat) * 2 ^ 52 + (m - 2 ^ 52) := by
  have hexponent : (e + 1075).toNat < 2 ^ 11 := by
    have := h.greatest
    omega
  have hsignificand : m % 2 ^ 52 = m - 2 ^ 52 := by
    have := h.low
    have := h.high
    omega
  have hsign : (signOf negative).toBitVec.toNat = negative.toNat := by cases negative <;> rfl
  show (UnpackedFloat.pack Format.binary64 (unpacked negative h)).toNat = _
  rw [pack_unpacked, packComponents]
  show ((signOf negative).toBitVec ++ BitVec.ofNat 11 (e + 1075).toNat ++ BitVec.ofNat 52 m).toNat = _
  rw [BitVec.toNat_append, BitVec.toNat_append,
    ← Nat.shiftLeft_add_eq_or_of_lt (BitVec.isLt _), ← Nat.shiftLeft_add_eq_or_of_lt (BitVec.isLt _),
    Nat.shiftLeft_eq, Nat.shiftLeft_eq, BitVec.toNat_ofNat, BitVec.toNat_ofNat,
    Nat.mod_eq_of_lt hexponent, hsignificand, hsign]

/-- What a double is made of. -/
theorem parts?_normal (h : IsNormal m e) : parts? (normal negative h) = some ⟨negative, m, e⟩ := by
  have hbits := toNat_toBits_normal negative h
  have hlow := h.low
  have hhigh := h.high
  have hleast := h.least
  have hgreatest := h.greatest
  have hsign : negative.toNat ≤ 1 := negative.toNat_le
  have hnegative : decide (negative.toNat = 1) = negative := by cases negative <;> rfl
  have hfraction : (normal negative h).toBits.toNat % Nat.pow 2 52 = m - 2 ^ 52 := by
    show _ % 4503599627370496 = _
    omega
  have hexponent : (normal negative h).toBits.toNat / Nat.pow 2 52 % 2048 = (e + 1075).toNat := by
    show _ / 4503599627370496 % 2048 = _
    omega
  have hlead : (normal negative h).toBits.toNat / Nat.pow 2 63 = negative.toNat := by
    show _ / 9223372036854775808 = _
    omega
  simp only [parts?, hfraction, hexponent, hlead, hnegative]
  rw [if_neg (by omega), if_neg (by omega)]
  congr 2
  · show m - 2 ^ 52 + 2 ^ 52 = m
    omega
  · omega

theorem toNat_append_significand (h : IsNormal m e) : (1#1 ++ BitVec.ofNat 52 m).toNat = m := by
  have hlow := h.low
  have hhigh := h.high
  rw [BitVec.toNat_append, ← Nat.shiftLeft_add_eq_or_of_lt (BitVec.isLt _), Nat.shiftLeft_eq,
    BitVec.toNat_ofNat, BitVec.toNat_ofNat]
  omega

/-- A double is taken apart into what it was made from. -/
theorem unpack_normal (h : IsNormal m e) :
    (normal negative h).toModel.unpack = unpacked negative h := by
  have hleast := h.least
  have hgreatest := h.greatest
  have hexponent : (BitVec.ofNat 11 (e + 1075).toNat).toNat = (e + 1075).toNat := by
    rw [BitVec.toNat_ofNat, Nat.mod_eq_of_lt (by omega)]
  have hinfinite : BitVec.ofNat 11 (e + 1075).toNat ≠ -1#11 := by
    intro heq
    have hcode : (e + 1075).toNat = 2047 := by simpa [hexponent] using congrArg BitVec.toNat heq
    omega
  have hsmallest : BitVec.ofNat 11 (e + 1075).toNat ≠ 0#11 := by
    intro heq
    have hcode : (e + 1075).toNat = 0 := by simpa [hexponent] using congrArg BitVec.toNat heq
    omega
  show UnpackedFloat.unpack Format.binary64 (UnpackedFloat.pack Format.binary64 _) = _
  rw [pack_unpacked]
  simp only [UnpackedFloat.unpack, unpackMantissa_packComponents, unpackExponent_packComponents,
    unpackSign_packComponents, Sign.ofBitVec_toBitVec]
  rw [if_neg hinfinite, if_neg hsmallest]
  simp only [unpacked, UnpackedFloat.finite.injEq, true_and]
  refine ⟨toNat_append_significand h, ?_⟩
  show ((BitVec.ofNat 11 (e + 1075).toNat).toNat : Int) - (1023 + 52) = e
  rw [hexponent]
  omega

/-! ## Rounding -/

/-- A significand without bits behind it. -/
def whole (m : Nat) : ExtendedMantissa :=
  ⟨m, false, false⟩

theorem whole_shiftRight (m j : Nat) : whole (m * 2 ^ j) >>> j = whole m := by
  induction j generalizing m with
  | zero => simp [HShiftRight.hShiftRight, Nat.repeat]
  | succ j ih =>
    have hstep : whole (m * 2 ^ (j + 1)) >>> (j + 1) =
        (whole (m * 2 * 2 ^ j) >>> j).shiftRightOne := by
      rw [Nat.pow_succ', ← Nat.mul_assoc]
      rfl
    rw [hstep, ih]
    simp [whole, ExtendedMantissa.shiftRightOne]

theorem targetExponent_of_isNormal (h : IsNormal m e) (j : Nat) :
    Format.binary64.targetExponent (totalExponent (m * 2 ^ j) (e - j)) = e := by
  have hlog : (m * 2 ^ j).log2 = 52 + j := by
    rw [Nat.log2_eq_iff (Nat.mul_ne_zero h.pos.ne' (Nat.two_pow_pos j).ne'), Nat.pow_add,
      Nat.add_right_comm, Nat.pow_add]
    exact ⟨Nat.mul_le_mul_right _ h.low, Nat.mul_lt_mul_of_pos_right h.high (Nat.two_pow_pos j)⟩
  have hleast := h.least
  rw [totalExponent, hlog]
  show max (_ - 53) (-1074) = e
  omega

theorem shiftToTargetExponent_of_isNormal (h : IsNormal m e) (j : Nat) :
    shiftToTargetExponent Format.binary64 (m * 2 ^ j) (e - j) .exact = (whole m, e) := by
  have hshift : (e - (e - (j : Int))).toNat = j := by omega
  rw [shiftToTargetExponent, targetExponent_of_isNormal h]
  simp only [shiftToExponent, hshift]
  refine Prod.ext (whole_shiftRight m j) ?_
  show e - j + j = e
  omega

/-- Zeros behind a significand are rounded away, and nothing else. -/
theorem roundWithAccuracy_of_isNormal (negative : Bool) (h : IsNormal m e) (j : Nat) :
    roundWithAccuracy Format.binary64 (signOf negative) (m * 2 ^ j) (e - j) .exact =
      unpacked negative h := by
  have hagain : shiftToTargetExponent Format.binary64 m e .exact = (whole m, e) := by
    simpa using shiftToTargetExponent_of_isNormal h 0
  have hrounded : (whole m).roundedMantissa = m := rfl
  rw [roundWithAccuracy, shiftToTargetExponent_of_isNormal h]
  dsimp only
  rw [hrounded, hagain]
  exact dif_neg h.pos.ne'

/-! ## Whole numbers -/

/-- A number of at most fifty-three bits, shifted up to as many. -/
theorem isNormal_of_lt (hpos : n ≠ 0) (h : n < 2 ^ 53) :
    IsNormal (n * 2 ^ (52 - n.log2)) ((n.log2 : Int) - 52) := by
  have hlog : n.log2 ≤ 52 := Nat.lt_succ_iff.1 ((Nat.log2_lt hpos).2 h)
  obtain ⟨hlow, hhigh⟩ := (Nat.log2_eq_iff hpos).1 rfl
  refine ⟨?_, ?_, by omega, by omega⟩
  · calc 2 ^ 52 = 2 ^ n.log2 * 2 ^ (52 - n.log2) := by rw [← Nat.pow_add]; congr 1; omega
      _ ≤ n * 2 ^ (52 - n.log2) := Nat.mul_le_mul_right _ hlow
  · calc n * 2 ^ (52 - n.log2) < 2 ^ (n.log2 + 1) * 2 ^ (52 - n.log2) :=
        Nat.mul_lt_mul_of_pos_right hhigh (Nat.two_pow_pos _)
      _ = 2 ^ 53 := by rw [← Nat.pow_add]; congr 1; omega

theorem round_of_lt (hpos : n ≠ 0) (h : n < 2 ^ 53) :
    UnpackedFloat.round Format.binary64 .positive n 0 = unpacked false (isNormal_of_lt hpos h) := by
  have hnormal := isNormal_of_lt hpos h
  have hlog : n.log2 ≤ 52 := Nat.lt_succ_iff.1 ((Nat.log2_lt hpos).2 h)
  have htarget : Format.binary64.targetExponent (totalExponent n 0) = (n.log2 : Int) - 52 := by
    show max ((n.log2 : Int) + 1 + 0 - 53) (-1074) = _
    omega
  have hshift : (0 - ((n.log2 : Int) - 52)).toNat = 52 - n.log2 := by omega
  have hexponent : (0 : Int) - ((52 - n.log2 : Nat) : Int) = (n.log2 : Int) - 52 := by omega
  simp only [UnpackedFloat.round, htarget, decreaseExponent, hshift, Nat.shiftLeft_eq, hexponent]
  have hrounded := roundWithAccuracy_of_isNormal false hnormal 0
  rwa [Nat.pow_zero, Nat.mul_one, Int.natCast_zero, Int.sub_zero] at hrounded

theorem toFloat_toUInt64 (hpos : n ≠ 0) (h : n < 2 ^ 53) :
    n.toUInt64.toFloat = normal false (isNormal_of_lt hpos h) := by
  have hword : n.toUInt64.toNat = n := Nat.mod_eq_of_lt (by omega)
  have hsign : compare (n : Int) 0 = .gt := by
    rw [Int.compare_eq_gt]
    omega
  have hnormalized : UnpackedFloat.normalize Format.binary64 (n.toUInt64.toNat : Int) 0 .positive =
      unpacked false (isNormal_of_lt hpos h) := by
    rw [hword, UnpackedFloat.normalize, hsign]
    exact round_of_lt hpos h
  exact congrArg (fun u => Float.ofModel (.pack u)) hnormalized

/-- The double one. -/
theorem isNormal_one : IsNormal (2 ^ 52) (-52) :=
  ⟨by decide, by decide, by decide, by decide⟩

/-- **A whole number is a double.** -/
theorem ofDecimal_of_lt (hpos : n ≠ 0) (h : n < 2 ^ 53) :
    ofDecimal false n 0 = normal false (isNormal_of_lt hpos h) := by
  have hnormal := isNormal_of_lt hpos h
  have hdigits : (Nat.toDigits 10 n).length ≤ 16 :=
    (Nat.length_toDigits_le_iff (by decide) (by decide)).2 (by omega)
  have hscientific : Float.ofScientific n false 0 = n.toUInt64.toFloat * normal false isNormal_one := by
    rw [Float.ofScientific, dif_pos ⟨h, by decide⟩]
    rfl
  have hproduct : mul Format.binary64 (unpacked false hnormal) (unpacked false isNormal_one) =
      unpacked false hnormal :=
    roundWithAccuracy_of_isNormal false hnormal 52
  have hofDecimal : ofDecimal false n 0 = Float.ofScientific n false 0 := by
    simp only [ofDecimal]
    rw [if_neg Bool.false_ne_true, if_neg hpos, if_neg (by omega), if_neg (by omega),
      if_neg (by decide)]
    rfl
  rw [hofDecimal, hscientific, toFloat_toUInt64 hpos h]
  show Float.ofModel (.pack (mul Format.binary64 (normal false hnormal).toModel.unpack
    (normal false isNormal_one).toModel.unpack)) = _
  rw [unpack_normal, unpack_normal, hproduct]
  rfl

theorem neg_normal (h : IsNormal m e) : -normal false h = normal true h := by
  show Float.ofModel (.pack (normal false h).toModel.unpack.neg) = _
  rw [unpack_normal]
  rfl

theorem units_shifted {shift total : Nat} (he : (e + 1074).toNat + shift = total) (n : Nat) :
    (⟨negative, n * 2 ^ shift, e⟩ : Parts).units = n * Nat.pow 2 total := by
  subst he
  show n * 2 ^ shift * 2 ^ (e + 1074).toNat = n * 2 ^ ((e + 1074).toNat + shift)
  rw [Nat.mul_assoc, ← Nat.pow_add, Nat.add_comm]

/-- A double is the whole number that its significand is worth. -/
theorem whole?_normal (h : IsNormal m e)
    (hunits : (⟨negative, m, e⟩ : Parts).units = n * Nat.pow 2 1074) :
    whole? (normal negative h) = some (if negative then -(n : Int) else n) := by
  have hpos : ∀ k, 0 < Nat.pow 2 k := fun k => Nat.two_pow_pos k
  simp only [whole?, parts?_normal, hunits, Nat.mul_mod_left, if_true,
    Nat.mul_div_cancel n (hpos 1074)]

/-- **A whole number of fifty-three bits is a double**, and so is the next one. -/
theorem exists_normal (hpos : n ≠ 0) (h : n ≤ 2 ^ 53) :
    ∃ (m : Nat) (e : Int) (hnormal : IsNormal m e), ofDecimal false n 0 = normal false hnormal ∧
      ∀ negative, (⟨negative, m, e⟩ : Parts).units = n * Nat.pow 2 1074 := by
  rcases Nat.lt_or_eq_of_le h with hlt | rfl
  · have hlog : n.log2 ≤ 52 := Nat.lt_succ_iff.1 ((Nat.log2_lt hpos).2 hlt)
    have hshift : ((n.log2 : Int) - 52 + 1074).toNat + (52 - n.log2) = 1074 := by omega
    refine ⟨_, _, isNormal_of_lt hpos hlt, ofDecimal_of_lt hpos hlt, fun negative => ?_⟩
    -- the power is too large to be evaluated
    generalize 1074 = total at hshift ⊢
    exact units_shifted hshift n
  · exact ⟨2 ^ 52, 1, ⟨by decide, by decide, by decide, by decide⟩, by decide +kernel,
      by decide +kernel⟩

theorem isFinite_normal (h : IsNormal m e) : isFinite (normal negative h) = true := by
  rw [isFinite, parts?_normal]
  rfl

end TypeSchema.Double

namespace TypeSchema

open Double

variable {n : Nat}

theorem Double.isFinite_ofDecimal (h : n ≤ 2 ^ 53) : isFinite (ofDecimal false n 0) = true := by
  by_cases hpos : n = 0
  · rw [hpos]
    decide +kernel
  · obtain ⟨m, e, hnormal, heq, -⟩ := exists_normal hpos h
    rw [heq, isFinite_normal]

namespace Number

theorem ofDouble_of_whole? {x : Float} {k : Int} (h : whole? x = some k)
    (hk : -2 ^ 63 < k ∧ k < 2 ^ 63) : ofDouble x = .integer k := by
  have hsize : UInt64.size / 2 = 2 ^ 63 := rfl
  rw [ofDouble, h]
  simp only [hsize]
  rw [if_pos (by omega), min_eq_left (by omega)]

/-- A whole number read as a double is written as itself. -/
theorem ofDouble_ofDecimal (h : n ≤ 2 ^ 53) : ofDouble (ofDecimal false n 0) = .integer n := by
  by_cases hpos : n = 0
  · rw [hpos]
    decide +kernel
  · obtain ⟨m, e, hnormal, heq, hunits⟩ := exists_normal hpos h
    rw [heq]
    exact ofDouble_of_whole? (whole?_normal hnormal (hunits false)) (by omega)

/-- So is a whole number behind a minus. -/
theorem ofDouble_neg_ofDecimal (hpos : n ≠ 0) (h : n ≤ 2 ^ 53) :
    ofDouble (-ofDecimal false n 0) = .integer (-n) := by
  obtain ⟨m, e, hnormal, heq, hunits⟩ := exists_normal hpos h
  rw [heq, neg_normal]
  have hwhole : whole? (normal true hnormal) = some (-(n : Int)) :=
    whole?_normal hnormal (hunits true)
  exact ofDouble_of_whole? hwhole (by omega)

end Number

end TypeSchema
