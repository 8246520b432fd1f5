import TypeSchema.Proofs.Number.Whole

/-!
# Numbers that stay finite

A whole number of 64 bits is far from the largest double, so the double nearest to it is finite
(`Double.isFinite_ofDecimal_of_lt`), and so is a finite double that was written as a number and read as a
double again (`Number.isFinite_toDouble_ofDouble`).

Whether a double is finite is a matter of its exponent.  The exponent of a product is found by shifting
its significand twice, before it is rounded and after, and both times the exponent is raised by no more
than the significand has bits (`isBounded_roundWithAccuracy`).
-/

set_option autoImplicit false

namespace TypeSchema.Double

open Float.Model Float.Model.UnpackedFloat

variable {x : Float} {u : UnpackedFloat} {m n : Nat} {e target : Int}

/-! ## Exponents -/

/-- The bits of the exponent are not all ones. -/
theorem isFinite_iff :
    isFinite x = true ↔ @unpackExponent Format.binary64 x.toBits.toBitVec ≠ -1#11 := by
  have hbiased : (@unpackExponent Format.binary64 x.toBits.toBitVec).toNat =
      x.toBits.toNat / Nat.pow 2 52 % 2048 := by
    rw [unpackExponent, BitVec.toNat_cast, BitVec.extractLsb_toNat, Nat.shiftRight_eq_div_pow]
    rfl
  have hones : (-1#11).toNat = 2047 := rfl
  rw [ne_eq, ← BitVec.toNat_inj, hbiased, hones, isFinite]
  simp only [parts?]
  split
  · next heq => simp [heq]
  · next hne =>
    split <;> simp [hne]

/-- A number of which the exponent is not too great for a double. -/
def IsBounded : UnpackedFloat → Prop
  | .zero _ => True
  | .finite _ _ e _ => e ≤ 971
  | _ => False

theorem isFinite_pack (h : IsBounded u) : isFinite (.ofModel (.pack u)) = true := by
  have hbits : (Float.ofModel (.pack u)).toBits.toBitVec = UnpackedFloat.pack Format.binary64 u := rfl
  rw [isFinite_iff, hbits]
  cases u with
  | notANumber => cases h
  | infinity sign => cases h
  | zero sign =>
    rw [UnpackedFloat.pack, packedZero, unpackExponent_packComponents]
    decide
  | finite sign m e hpos =>
    have he : e ≤ 971 := h
    have hbiased : e + Format.binary64.exponentBias + Format.binary64.mantissaBitsWithoutImplicit =
        e + 1075 := by
      show e + 1023 + 52 = _
      omega
    have hfits : ¬2 ^ Format.binary64.exponentBits ≤ (e + 1075).toNat + 1 := by
      show ¬2048 ≤ _
      omega
    simp only [UnpackedFloat.pack, hbiased, if_neg hfits]
    split
    · rw [unpackExponent_packComponents]
      intro heq
      have hcode : (BitVec.ofNat 11 (e + 1075).toNat).toNat = 2047 := congrArg BitVec.toNat heq
      rw [BitVec.toNat_ofNat] at hcode
      omega
    · rw [unpackExponent_packComponents]
      decide

theorem isBounded_unpack (h : isFinite x = true) : IsBounded x.toModel.unpack := by
  have hexponent := isFinite_iff.1 h
  have hunpack : x.toModel.unpack = UnpackedFloat.unpack Format.binary64 x.toBits.toBitVec := rfl
  have hlimit : (@unpackExponent Format.binary64 x.toBits.toBitVec).toNat ≤ 2046 := by
    have hlt : (@unpackExponent Format.binary64 x.toBits.toBitVec).toNat < 2048 :=
      BitVec.isLt _
    have hne : (@unpackExponent Format.binary64 x.toBits.toBitVec).toNat ≠ 2047 :=
      fun heq => hexponent (BitVec.eq_of_toNat_eq heq)
    omega
  rw [hunpack]
  simp only [UnpackedFloat.unpack]
  rw [if_neg hexponent]
  split
  · next hzero =>
    split
    · trivial
    · -- One of the smallest numbers.
      rw [hzero]
      exact (by decide : (0 : Int) - (1023 + 52) + 1 ≤ 971)
  · show ((@unpackExponent Format.binary64 x.toBits.toBitVec).toNat : Int) - (1023 + 52) ≤ 971
    omega

/-- A minus makes no difference. -/
theorem isFinite_neg (h : isFinite x = true) : isFinite (-x) = true := by
  have hneg : -x = .ofModel (.pack x.toModel.unpack.neg) := rfl
  have hbounded := isBounded_unpack h
  rw [hneg]
  refine isFinite_pack ?_
  generalize x.toModel.unpack = u at hbounded ⊢
  cases u with
  | notANumber => cases hbounded
  | infinity sign => cases hbounded
  | zero sign => trivial
  | finite sign m e hpos => exact hbounded

/-! ## Rounding -/

theorem mantissa_shiftRight_le (em : ExtendedMantissa) (k : Nat) :
    (em >>> k).mantissa ≤ em.mantissa := by
  induction k generalizing em with
  | zero => exact Nat.le_refl _
  | succ k ih => exact (Nat.div_le_self _ 2).trans (ih em)

theorem roundedMantissa_le (em : ExtendedMantissa) : em.roundedMantissa ≤ em.mantissa + 1 := by
  obtain ⟨m, round, sticky⟩ := em
  cases round <;> cases sticky <;>
    simp only [ExtendedMantissa.roundedMantissa, ExtendedMantissa.accuracy,
      Accuracy.roundToNearestEven] <;> omega

theorem mantissa_shiftToTargetExponent_le (m : Nat) (e : Int) :
    (shiftToTargetExponent Format.binary64 m e .exact).1.mantissa ≤ m := by
  simp only [shiftToTargetExponent, shiftToExponent]
  exact mantissa_shiftRight_le _ _

/-- The exponent is raised by no more than the significand has bits. -/
theorem exponent_shiftToTargetExponent_le {limit : Nat} (hm : m ≤ 2 ^ limit) (he : -1074 ≤ e + limit) :
    (shiftToTargetExponent Format.binary64 m e .exact).2 ≤ e + limit := by
  have hlog : m.log2 ≤ limit := by
    by_cases hzero : m = 0
    · rw [hzero]
      exact Nat.zero_le _
    · exact Nat.lt_succ_iff.1 ((Nat.log2_lt hzero).2
        (Nat.lt_of_le_of_lt hm (Nat.pow_lt_pow_right (by decide) (Nat.lt_succ_self _))))
  have htarget : Format.binary64.targetExponent (totalExponent m e) =
      max ((m.log2 : Int) + 1 + e - 53) (-1074) := rfl
  simp only [shiftToTargetExponent, shiftToExponent, htarget]
  omega

/-- Numbers with an exponent that is not positive and no more than two hundred bits are far from the
largest double. -/
theorem isBounded_roundWithAccuracy (sign : Sign) (hm : m < 2 ^ 200) (hlow : -1000 ≤ e) (hhigh : e ≤ 0) :
    IsBounded (roundWithAccuracy Format.binary64 sign m e .exact) := by
  have hfirst := exponent_shiftToTargetExponent_le hm.le (by omega : -1074 ≤ e + (200 : Nat))
  have hshifted := mantissa_shiftToTargetExponent_le m e
  have hlowest : e ≤ (shiftToTargetExponent Format.binary64 m e .exact).2 := by
    simp only [shiftToTargetExponent, shiftToExponent]
    omega
  rw [roundWithAccuracy]
  generalize shiftToTargetExponent Format.binary64 m e .exact = shifted at *
  obtain ⟨em, raised⟩ := shifted
  dsimp only at *
  have hrounded : em.roundedMantissa ≤ 2 ^ 200 := by
    have := roundedMantissa_le em
    omega
  have hsecond := exponent_shiftToTargetExponent_le (e := raised) hrounded (by omega)
  split
  · trivial
  · show (shiftToTargetExponent Format.binary64 em.roundedMantissa raised .exact).2 ≤ 971
    omega

/-! ## Whole numbers -/

theorem isBounded_ofScientific (h : n < 2 ^ 64) :
    IsBounded (UnpackedFloat.ofScientific Format.binary64 n 0) := by
  have hbits : (2 : Int) ^ Format.binary64.exponentBits = 2048 := rfl
  rw [UnpackedFloat.ofScientific, hbits]
  split
  · trivial
  · rw [if_neg (by decide), if_neg (by omega), if_pos (by decide)]
    have hproduct : n <<< Format.binary64.mantissaBits * 10 ^ (0 : Int).toNat = n * 2 ^ 53 := by
      rw [Nat.shiftLeft_eq]
      exact Nat.mul_one _
    rw [UnpackedFloat.mul, hproduct]
    exact isBounded_roundWithAccuracy _ (by omega) (by decide) (by decide)

/-- **The double nearest to a whole number of 64 bits is finite.** -/
theorem isFinite_ofDecimal_of_lt (negative : Bool) (h : n < 2 ^ 64) :
    isFinite (ofDecimal negative n 0) = true := by
  have hpositive : isFinite (ofDecimal false n 0) = true := by
    by_cases hsmall : n < 2 ^ 53
    · exact isFinite_ofDecimal hsmall.le
    · have hdigits : (Nat.toDigits 10 n).length ≤ 20 :=
        (Nat.length_toDigits_le_iff (by decide) (by decide)).2 (by omega)
      have hscientific : ofDecimal false n 0 =
          .ofModel (.pack (UnpackedFloat.ofScientific Format.binary64 n 0)) := by
        simp only [ofDecimal]
        rw [if_neg Bool.false_ne_true, if_neg (by omega), if_neg (by omega), if_neg (by omega),
          if_neg (by decide), Float.ofScientific, dif_neg (by omega)]
        rfl
      rw [hscientific]
      exact isFinite_pack (isBounded_ofScientific h)
  cases negative with
  | false => exact hpositive
  | true =>
    have hneg : ofDecimal true n 0 = -ofDecimal false n 0 := by
      simp only [ofDecimal]
      rfl
    rw [hneg]
    exact isFinite_neg hpositive

end TypeSchema.Double

namespace TypeSchema.Number

open Double

/-- A finite double stays finite as a number. -/
theorem isFinite_toDouble_ofDouble {x : Float} (h : isFinite x = true) :
    isFinite (ofDouble x).toDouble = true := by
  rw [ofDouble]
  split
  · next k hwhole =>
    have hsize : UInt64.size / 2 = 2 ^ 63 := rfl
    simp only [hsize]
    split
    · refine isFinite_ofDecimal_of_lt _ ?_
      omega
    · exact h
  · exact h

end TypeSchema.Number
