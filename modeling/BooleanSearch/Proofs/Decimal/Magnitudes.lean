import BooleanSearch.Decimal.Fixed
import Mathlib

/-!
# The size of products of doubles

A double is rounded whenever it is made, so the whole part of a product may come out above the product of
the factors.  What rounding adds is at most one unit in the last of the 53 places kept, or half the least
positive double, and packing the result adds nothing.
-/

namespace BooleanSearch.Decimal

open Float.Model (Format UnpackedFloat totalExponent)
open Float.Model.UnpackedFloat

/-! ## Magnitudes -/

/-- The absolute value of an exact fraction. -/
def Dyadic.magnitude (value : Dyadic) : ℚ :=
  value.mantissa * (2 : ℚ) ^ value.exponent

/-- The absolute value of a double; one that is not finite counts as nothing. -/
def Kind.magnitude : Kind → ℚ
  | .finite number => number.magnitude
  | _ => 0

/-- The absolute value of a double. -/
def magnitude (value : Float) : ℚ :=
  (Kind.ofFloat value).magnitude

/-- The absolute value of a double as arithmetic unpacks it. -/
def unpackedMagnitude : UnpackedFloat → ℚ
  | .finite _ mantissa exponent _ => mantissa * (2 : ℚ) ^ exponent
  | _ => 0

theorem unpackedMagnitude_nonneg (value : UnpackedFloat) : 0 ≤ unpackedMagnitude value := by
  cases value with
  | finite sign mantissa exponent positive =>
      simp only [unpackedMagnitude]
      positivity
  | _ => exact le_refl _

theorem Dyadic.magnitude_eq_fraction (value : Dyadic) :
    value.magnitude = (value.fraction.1 : ℚ) / value.fraction.2 := by
  unfold Dyadic.magnitude Dyadic.fraction
  split
  · next small =>
      obtain ⟨places, spelled⟩ : ∃ places : Nat, value.exponent = -(places : Int) :=
        ⟨(-value.exponent).toNat, by omega⟩
      simp only [spelled, neg_neg, Int.toNat_natCast, Nat.pow_eq, Nat.cast_pow, Nat.cast_ofNat]
      rw [zpow_neg, zpow_natCast, div_eq_mul_inv]
  · next large =>
      obtain ⟨places, spelled⟩ : ∃ places : Nat, value.exponent = (places : Int) :=
        ⟨value.exponent.toNat, by omega⟩
      simp only [spelled, Int.toNat_natCast, Nat.pow_eq, Nat.cast_mul, Nat.cast_pow,
        Nat.cast_ofNat, Nat.cast_one, div_one]
      rw [zpow_natCast]

/-- The whole part of a double is no larger than the double. -/
theorem natAbs_le_magnitude {value : Float} {whole : Int} (found : truncate? value = some whole) :
    (whole.natAbs : ℚ) ≤ magnitude value := by
  unfold truncate? at found
  split at found
  · next number kind =>
      have same : whole.natAbs = number.fraction.1 / number.fraction.2 := by
        rw [← Option.some.inj found]
        split
        · exact Int.natAbs_neg _
        · rfl
      rw [same, magnitude, kind, Kind.magnitude, number.magnitude_eq_fraction]
      exact Nat.cast_div_le
  · cases found

/-! ## Reading the bits -/

theorem toNat_unpackMantissa (bits : BitVec 64) :
    (@unpackMantissa Format.binary64 bits).toNat = bits.toNat % 2 ^ 52 := by
  simp [unpackMantissa]

theorem toNat_unpackExponent (bits : BitVec 64) :
    (@unpackExponent Format.binary64 bits).toNat = bits.toNat / 2 ^ 52 % 2048 := by
  simp [unpackExponent, Nat.shiftRight_eq_div_pow]

theorem unpackExponent_eq_iff (bits : BitVec 64) (field : BitVec 11) :
    @unpackExponent Format.binary64 bits = field ↔
      bits.toNat / 2 ^ 52 % 2048 = field.toNat := by
  rw [← toNat_unpackExponent]
  exact BitVec.toNat_inj.symm

theorem unpackMantissa_eq_zero_iff (bits : BitVec 64) :
    @unpackMantissa Format.binary64 bits = 0#52 ↔ bits.toNat % 2 ^ 52 = 0 := by
  rw [← toNat_unpackMantissa]
  exact BitVec.toNat_inj.symm

theorem toNat_one_append {width : Nat} (vector : BitVec width) :
    (1#1 ++ vector).toNat = 2 ^ width + vector.toNat := by
  rw [BitVec.toNat_append, ← Nat.shiftLeft_add_eq_or_of_lt vector.isLt]
  simp [Nat.shiftLeft_eq]

/-- The bits are read alike by the texts of doubles and by their arithmetic. -/
theorem magnitude_ofBits (bits : BitVec 64) :
    (Kind.ofBits bits.toNat).magnitude = unpackedMagnitude (unpack Format.binary64 bits) := by
  have mantissa := toNat_unpackMantissa bits
  have exponent := toNat_unpackExponent bits
  have bias : (Format.binary64.exponentBias + Format.binary64.mantissaBitsWithoutImplicit : Int) =
      1075 := by decide
  unfold unpack Kind.ofBits
  dsimp only
  rw [bias]
  by_cases high : bits.toNat / 2 ^ 52 % 2048 = 2047
  · have field : (bits.toNat / Nat.pow 2 52 % 2048 == 2047) = true := by simpa using high
    have last := (unpackExponent_eq_iff bits (-1#11)).mpr high
    rw [if_pos field, if_pos last]
    split <;> split <;> rfl
  · have field : ¬(bits.toNat / Nat.pow 2 52 % 2048 == 2047) = true := by simpa using high
    have last : ¬_ := fun same => high ((unpackExponent_eq_iff bits (-1#11)).mp same)
    rw [if_neg field, if_neg last]
    by_cases low : bits.toNat / 2 ^ 52 % 2048 = 0
    · have field : (bits.toNat / Nat.pow 2 52 % 2048 == 0) = true := by simpa using low
      have first := (unpackExponent_eq_iff bits 0#11).mpr low
      rw [if_pos field, if_pos first]
      by_cases none : bits.toNat % 2 ^ 52 = 0
      · rw [dif_pos ((unpackMantissa_eq_zero_iff bits).mpr none)]
        have none : bits.toNat % Nat.pow 2 52 = 0 := none
        simp [Kind.magnitude, Dyadic.magnitude, unpackedMagnitude, none]
      · rw [dif_neg fun same => none ((unpackMantissa_eq_zero_iff bits).mp same)]
        simp only [Kind.magnitude, Dyadic.magnitude, unpackedMagnitude, mantissa, exponent, low]
        rfl
    · have field : ¬(bits.toNat / Nat.pow 2 52 % 2048 == 0) = true := by simpa using low
      have first : ¬_ := fun same => low ((unpackExponent_eq_iff bits 0#11).mp same)
      rw [if_neg field, if_neg first]
      have whole : (1#1 ++ @unpackMantissa Format.binary64 bits).toNat =
          2 ^ 52 + bits.toNat % 2 ^ 52 := by
        rw [toNat_one_append, mantissa]
      simp only [Kind.magnitude, Dyadic.magnitude, unpackedMagnitude, exponent, whole]
      rfl

theorem magnitude_eq_unpack (value : Float) :
    magnitude value = unpackedMagnitude value.toModel.unpack :=
  magnitude_ofBits value.toBits.toBitVec

/-! ## Packing -/

/-- What arithmetic packs: no exponent is below that of the least positive double. -/
def Coarse : UnpackedFloat → Prop
  | .finite _ _ exponent _ => -1074 ≤ exponent
  | _ => True

theorem coarse_unpack (bits : BitVec 64) : Coarse (UnpackedFloat.unpack Format.binary64 bits) := by
  have bias : (Format.binary64.exponentBias + Format.binary64.mantissaBitsWithoutImplicit : Int) =
      1075 := by decide
  unfold UnpackedFloat.unpack
  dsimp only
  rw [bias]
  split
  · split <;> trivial
  · split
    · split
      · trivial
      · simp only [Coarse]
        omega
    · next low =>
        have field : (@unpackExponent Format.binary64 bits).toNat ≠ 0 :=
          fun zero => low (BitVec.eq_of_toNat_eq zero)
        simp only [Coarse]
        omega

theorem unpackedMagnitude_components (sign : Sign) (field : BitVec 11) (fraction : BitVec 52) :
    unpackedMagnitude (UnpackedFloat.unpack Format.binary64
        (packComponents Format.binary64 sign field fraction)) =
      if field = -1#11 then 0
      else if field = 0#11 then fraction.toNat * (2 : ℚ) ^ (-1074 : Int)
      else ((2 ^ 52 + fraction.toNat : Nat) : ℚ) * 2 ^ ((field.toNat : Int) - 1075) := by
  have bias : (Format.binary64.exponentBias + Format.binary64.mantissaBitsWithoutImplicit : Int) =
      1075 := by decide
  unfold UnpackedFloat.unpack
  simp only [unpackMantissa_packComponents, unpackExponent_packComponents, bias]
  by_cases last : field = -1#11
  · rw [if_pos last, if_pos last]
    split <;> rfl
  · rw [if_neg last, if_neg last]
    by_cases first : field = 0#11
    · rw [if_pos first, if_pos first]
      by_cases none : fraction = 0#52
      · rw [dif_pos none, none]
        simp [unpackedMagnitude]
      · rw [dif_neg none, first]
        rfl
    · rw [if_neg first, if_neg first]
      simp only [unpackedMagnitude, toNat_one_append]

/-- Packing makes nothing larger. -/
theorem unpackedMagnitude_pack_le {value : UnpackedFloat} (coarse : Coarse value) :
    unpackedMagnitude (UnpackedFloat.unpack Format.binary64
      (UnpackedFloat.pack Format.binary64 value)) ≤ unpackedMagnitude value := by
  cases value with
  | notANumber => exact (by decide : (0 : ℚ) ≤ 0)
  | infinity sign => cases sign <;> exact (by decide : (0 : ℚ) ≤ 0)
  | zero sign => cases sign <;> exact (by decide : (0 : ℚ) ≤ 0)
  | finite sign mantissa exponent positive =>
      have bias : (exponent + Format.binary64.exponentBias
          + Format.binary64.mantissaBitsWithoutImplicit).toNat = (exponent + 1075).toNat := by
        change (exponent + 1023 + 52).toNat = _
        omega
      have nonneg := unpackedMagnitude_nonneg (.finite sign mantissa exponent positive)
      have coarse : -1074 ≤ exponent := coarse
      unfold UnpackedFloat.pack
      simp only [bias]
      split
      · rw [packedInfinity, unpackedMagnitude_components, if_pos rfl]
        exact nonneg
      · next below =>
          have below : ¬2048 ≤ (exponent + 1075).toNat + 1 := below
          split
          · next full =>
              have full : mantissa.log2 + 1 = 53 := full
              have lower : 2 ^ 52 ≤ mantissa := by
                have known := Nat.log2_self_le (Nat.pos_iff_ne_zero.mp positive)
                rwa [show mantissa.log2 = 52 by omega] at known
              have upper : mantissa < 2 ^ 53 := by
                have known := @Nat.lt_log2_self mantissa
                rwa [full] at known
              have field : (BitVec.ofNat 11 (exponent + 1075).toNat).toNat =
                  (exponent + 1075).toNat := by
                rw [BitVec.toNat_ofNat]
                omega
              have notLast : BitVec.ofNat 11 (exponent + 1075).toNat ≠ -1#11 := by
                intro same
                rw [same] at field
                have last : (-1#11).toNat = 2047 := by decide
                omega
              have notFirst : BitVec.ofNat 11 (exponent + 1075).toNat ≠ 0#11 := by
                intro same
                rw [same] at field
                have first : (0#11).toNat = 0 := by decide
                omega
              have whole : 2 ^ 52 + (BitVec.ofNat 52 mantissa).toNat = mantissa := by
                rw [BitVec.toNat_ofNat]
                omega
              have power : ((exponent + 1075).toNat : Int) - 1075 = exponent := by omega
              rw [unpackedMagnitude_components, if_neg notLast, if_neg notFirst, field, whole, power]
              exact le_refl _
          · rw [unpackedMagnitude_components, if_neg (by decide), if_pos rfl]
            have fewer : (BitVec.ofNat 52 mantissa).toNat ≤ mantissa := by
              rw [BitVec.toNat_ofNat]
              exact Nat.mod_le _ _
            have fewer : ((BitVec.ofNat 52 mantissa).toNat : ℚ) ≤ mantissa := by
              exact_mod_cast fewer
            have smaller : (2 : ℚ) ^ (-1074 : Int) ≤ 2 ^ exponent :=
              zpow_le_zpow_right₀ (by norm_num) coarse
            exact mul_le_mul fewer smaller (by positivity) (by positivity)

/-! ## Rounding -/

theorem mantissa_shiftRight (extended : ExtendedMantissa) (count : Nat) :
    (extended >>> count).mantissa = extended.mantissa / 2 ^ count := by
  induction count with
  | zero => exact (Nat.div_one _).symm
  | succ count inductionHypothesis =>
      have step : (extended >>> (count + 1)).mantissa = (extended >>> count).mantissa / 2 := rfl
      rw [step, inductionHypothesis, Nat.div_div_eq_div_mul, Nat.pow_succ]

theorem roundedMantissa_le (extended : ExtendedMantissa) :
    extended.roundedMantissa ≤ extended.mantissa + 1 := by
  unfold ExtendedMantissa.roundedMantissa
  cases extended.accuracy with
  | exact => exact Nat.le_succ _
  | inexact order =>
      cases order with
      | lt => exact Nat.le_succ _
      | eq =>
          simp only [Accuracy.roundToNearestEven]
          omega
      | gt => exact Nat.le_refl _

/-- The value of some units after some of their last places were cut off. -/
theorem cut_le (mantissa : Nat) (exponent : Int) (count : Nat) :
    ((mantissa / 2 ^ count : Nat) : ℚ) * 2 ^ (exponent + count) ≤ mantissa * 2 ^ exponent := by
  have bound : ((mantissa / 2 ^ count : Nat) : ℚ) ≤ mantissa / 2 ^ count := by
    exact_mod_cast (Nat.cast_div_le (α := ℚ) (m := mantissa) (n := 2 ^ count))
  rw [zpow_add₀ (by norm_num), zpow_natCast]
  calc ((mantissa / 2 ^ count : Nat) : ℚ) * (2 ^ exponent * 2 ^ count)
      ≤ mantissa / 2 ^ count * (2 ^ exponent * 2 ^ count) := by gcongr
    _ = mantissa * 2 ^ exponent := by field_simp

/-- An exact mantissa is shifted so far that 53 places are left and the exponent is not too low. -/
theorem exists_shiftToTargetExponent (mantissa : Nat) (exponent : Int) :
    ∃ count : Nat,
      shiftToTargetExponent Format.binary64 mantissa exponent .exact =
        ((⟨mantissa, false, false⟩ : ExtendedMantissa) >>> count, exponent + count) ∧
      -1074 ≤ exponent + count ∧
      (count ≠ 0 → exponent + count ≤ max (mantissa.log2 + exponent - 52) (-1074)) := by
  have target : Format.binary64.targetExponent (totalExponent mantissa exponent) =
      max (mantissa.log2 + 1 + exponent - 53) (-1074) := rfl
  refine ⟨(max (mantissa.log2 + 1 + exponent - 53) (-1074) - exponent).toNat, ?_, ?_, ?_⟩
  · simp only [shiftToTargetExponent, target]
    rfl
  · omega
  · omega

theorem unit_le {mantissa : Nat} (positive : 0 < mantissa) {exponent unit : Int}
    (bound : unit ≤ max (mantissa.log2 + exponent - 52) (-1074)) :
    (2 : ℚ) ^ unit ≤ mantissa * 2 ^ exponent * (1 / 2 ^ 52) + 2 ^ (-1074 : Int) := by
  have least : (0 : ℚ) < 2 ^ (-1074 : Int) := by positivity
  have amount : (0 : ℚ) ≤ mantissa * 2 ^ exponent * (1 / 2 ^ 52) := by positivity
  rcases le_max_iff.mp bound with high | low
  · have digits : ((2 ^ mantissa.log2 : Nat) : ℚ) ≤ mantissa := by
      exact_mod_cast Nat.log2_self_le (Nat.pos_iff_ne_zero.mp positive)
    calc (2 : ℚ) ^ unit ≤ 2 ^ ((mantissa.log2 : Int) + exponent - 52) :=
          zpow_le_zpow_right₀ (by norm_num) high
      _ = ((2 ^ mantissa.log2 : Nat) : ℚ) * 2 ^ exponent * (1 / 2 ^ 52) := by
          rw [zpow_sub₀ (by norm_num), zpow_add₀ (by norm_num), zpow_natCast]
          norm_num
          ring
      _ ≤ mantissa * 2 ^ exponent * (1 / 2 ^ 52) := by gcongr
      _ ≤ mantissa * 2 ^ exponent * (1 / 2 ^ 52) + 2 ^ (-1074 : Int) := by linarith
  · have small : (2 : ℚ) ^ unit ≤ 2 ^ (-1074 : Int) := zpow_le_zpow_right₀ (by norm_num) low
    linarith

/-- Rounding adds at most one unit of the 53rd place kept, or of the least exponent. -/
theorem unpackedMagnitude_round_le (sign : Sign) {mantissa : Nat} (positive : 0 < mantissa)
    (exponent : Int) :
    Coarse (roundWithAccuracy Format.binary64 sign mantissa exponent .exact) ∧
      unpackedMagnitude (roundWithAccuracy Format.binary64 sign mantissa exponent .exact) ≤
        mantissa * 2 ^ exponent * (1 + 1 / 2 ^ 52) + 2 ^ (-1074 : Int) := by
  obtain ⟨count, first, -, unit⟩ := exists_shiftToTargetExponent mantissa exponent
  have rounded : (((⟨mantissa, false, false⟩ : ExtendedMantissa) >>> count).roundedMantissa : ℚ)
      * 2 ^ (exponent + count) ≤ mantissa * 2 ^ exponent * (1 + 1 / 2 ^ 52) + 2 ^ (-1074 : Int) := by
    have least : (0 : ℚ) < 2 ^ (-1074 : Int) := by positivity
    have amount : (0 : ℚ) ≤ mantissa * 2 ^ exponent * (1 / 2 ^ 52) := by positivity
    by_cases none : count = 0
    · subst none
      have same : ((⟨mantissa, false, false⟩ : ExtendedMantissa) >>> 0).roundedMantissa = mantissa :=
        rfl
      rw [same, Nat.cast_zero, add_zero]
      linarith
    · have up := roundedMantissa_le ((⟨mantissa, false, false⟩ : ExtendedMantissa) >>> count)
      rw [mantissa_shiftRight] at up
      have up : (((⟨mantissa, false, false⟩ : ExtendedMantissa) >>> count).roundedMantissa : ℚ) ≤
          (mantissa / 2 ^ count : Nat) + 1 := by exact_mod_cast up
      have cut := cut_le mantissa exponent count
      have extra := unit_le positive (unit none)
      have scaled := mul_le_mul_of_nonneg_right up
        (show (0 : ℚ) ≤ 2 ^ (exponent + count) by positivity)
      linarith
  obtain ⟨further, second, lowest, -⟩ := exists_shiftToTargetExponent
    ((⟨mantissa, false, false⟩ : ExtendedMantissa) >>> count).roundedMantissa (exponent + count)
  have final := cut_le
    ((⟨mantissa, false, false⟩ : ExtendedMantissa) >>> count).roundedMantissa (exponent + count)
    further
  unfold roundWithAccuracy
  simp only [first, second, mantissa_shiftRight]
  split
  · refine ⟨trivial, ?_⟩
    simp only [unpackedMagnitude]
    positivity
  · exact ⟨lowest, final.trans rounded⟩

theorem unpackedMagnitude_mul_le (first second : UnpackedFloat) :
    Coarse (UnpackedFloat.mul Format.binary64 first second) ∧
      unpackedMagnitude (UnpackedFloat.mul Format.binary64 first second) ≤
        unpackedMagnitude first * unpackedMagnitude second * (1 + 1 / 2 ^ 52) +
          2 ^ (-1074 : Int) := by
  have nothing : (0 : ℚ) ≤ unpackedMagnitude first * unpackedMagnitude second * (1 + 1 / 2 ^ 52) +
      2 ^ (-1074 : Int) := by
    have one := unpackedMagnitude_nonneg first
    have two := unpackedMagnitude_nonneg second
    positivity
  cases first with
  | finite sign mantissa exponent positive =>
      cases second with
      | finite otherSign otherMantissa otherExponent otherPositive =>
          have bound := unpackedMagnitude_round_le (sign * otherSign)
            (Nat.mul_pos positive otherPositive) (exponent + otherExponent)
          have factors : ((mantissa * otherMantissa : Nat) : ℚ) * 2 ^ (exponent + otherExponent) =
              mantissa * 2 ^ exponent * (otherMantissa * 2 ^ otherExponent) := by
            rw [zpow_add₀ (by norm_num)]
            push_cast
            ring
          rw [factors] at bound
          exact bound
      | _ => exact ⟨trivial, nothing⟩
  | _ => cases second <;> exact ⟨trivial, nothing⟩

/-- A product of doubles is at most the product of what they stand for, but for rounding. -/
theorem magnitude_mul_le (first second : Float) :
    magnitude (first * second) ≤
      magnitude first * magnitude second * (1 + 1 / 2 ^ 52) + 2 ^ (-1074 : Int) := by
  have packed : magnitude (first * second) = unpackedMagnitude (UnpackedFloat.unpack Format.binary64
      (UnpackedFloat.pack Format.binary64
        (UnpackedFloat.mul Format.binary64 first.toModel.unpack second.toModel.unpack))) :=
    magnitude_eq_unpack (first * second)
  have product := unpackedMagnitude_mul_le first.toModel.unpack second.toModel.unpack
  rw [packed, magnitude_eq_unpack first, magnitude_eq_unpack second]
  exact (unpackedMagnitude_pack_le product.1).trans product.2

/-! ## Whole numbers -/

theorem roundHalfEven_le (numerator denominator : Nat) :
    roundHalfEven numerator denominator ≤ numerator / denominator + 1 := by
  unfold roundHalfEven
  dsimp only
  split
  · omega
  · split <;> omega

theorem div_le_roundHalfEven (numerator denominator : Nat) :
    numerator / denominator ≤ roundHalfEven numerator denominator := by
  unfold roundHalfEven
  dsimp only
  split
  · omega
  · split <;> omega

theorem roundHalfEven_one (numerator : Nat) : roundHalfEven numerator 1 = numerator := by
  simp [roundHalfEven, Nat.mod_one]

theorem magnitude_signed_le {bits : Nat} (bound : bits < 2 ^ 64) :
    magnitude (signed false bits) ≤ (Kind.ofBits bits).magnitude := by
  have same : (UInt64.ofNat bits).toBitVec.toNat = bits := by
    rw [UInt64.toNat_toBitVec, UInt64.toNat_ofNat']
    exact Nat.mod_eq_of_lt bound
  have read := magnitude_ofBits (UInt64.ofNat bits).toBitVec
  rw [same] at read
  rw [magnitude_eq_unpack, read]
  exact unpackedMagnitude_pack_le (coarse_unpack _)

/-- What bits below those of infinity stand for: a carry of the mantissa makes the exponent one higher. -/
theorem magnitude_ofBits_carry {exponent mantissa : Nat} (most : mantissa ≤ 2 ^ 53)
    (least : exponent = 0 ∨ 2 ^ 52 ≤ mantissa)
    (finite : exponent * 2 ^ 52 + mantissa < 2047 * 2 ^ 52) :
    (Kind.ofBits (exponent * 2 ^ 52 + mantissa)).magnitude =
      mantissa * (2 : ℚ) ^ ((exponent : Int) - 1074) := by
  have finite : (exponent * 2 ^ 52 + mantissa) / 2 ^ 52 < 2047 :=
    Nat.div_lt_of_lt_mul (by omega)
  have parts : (Kind.ofBits (exponent * 2 ^ 52 + mantissa)).magnitude =
      if (exponent * 2 ^ 52 + mantissa) / 2 ^ 52 = 0 then
        ((exponent * 2 ^ 52 + mantissa) % 2 ^ 52 : Nat) * (2 : ℚ) ^ (-1074 : Int)
      else ((2 ^ 52 + (exponent * 2 ^ 52 + mantissa) % 2 ^ 52 : Nat) : ℚ) *
        2 ^ (((exponent * 2 ^ 52 + mantissa) / 2 ^ 52 : Nat) - 1075 : Int) := by
    have field : (exponent * 2 ^ 52 + mantissa) / Nat.pow 2 52 % 2048 =
        (exponent * 2 ^ 52 + mantissa) / 2 ^ 52 := Nat.mod_eq_of_lt (by simp only [Nat.pow_eq]; omega)
    have notLast : ¬((exponent * 2 ^ 52 + mantissa) / 2 ^ 52 == 2047) = true := by
      rw [beq_iff_eq]
      omega
    unfold Kind.ofBits
    simp only [field, if_neg notLast]
    split
    · next first =>
        rw [if_pos (by simpa using first)]
        rfl
    · next first =>
        rw [if_neg (by simpa using first)]
        rfl
  rw [parts]
  by_cases small : mantissa < 2 ^ 52
  · obtain rfl : exponent = 0 := by omega
    have field : (0 * 2 ^ 52 + mantissa) / 2 ^ 52 = 0 := by omega
    have rest : (0 * 2 ^ 52 + mantissa) % 2 ^ 52 = mantissa := by omega
    rw [if_pos field, rest]
    simp
  · by_cases full : mantissa = 2 ^ 53
    · subst full
      have field : (exponent * 2 ^ 52 + 2 ^ 53) / 2 ^ 52 = exponent + 2 := by omega
      have rest : (exponent * 2 ^ 52 + 2 ^ 53) % 2 ^ 52 = 0 := by omega
      have power : ((exponent + 2 : Nat) : Int) - 1075 = (exponent : Int) - 1074 + 1 := by omega
      rw [field, rest, if_neg (by omega), power, zpow_add_one₀ (by norm_num)]
      push_cast
      ring
    · have field : (exponent * 2 ^ 52 + mantissa) / 2 ^ 52 = exponent + 1 := by omega
      have rest : 2 ^ 52 + (exponent * 2 ^ 52 + mantissa) % 2 ^ 52 = mantissa := by omega
      have power : ((exponent + 1 : Nat) : Int) - 1075 = (exponent : Int) - 1074 := by omega
      rw [field, rest, if_neg (by omega), power]

/-- The bits nearest to a whole number are those of 53 places and an exponent. -/
theorem exists_nearestBits_one {number : Nat} (positive : number ≠ 0) :
    ∃ exponent mantissa : Nat, 2 ^ 52 ≤ mantissa ∧ mantissa ≤ 2 ^ 53 ∧
      nearestBits number 1 = min (exponent * 2 ^ 52 + mantissa) (2047 * 2 ^ 52) ∧
      mantissa * (2 : ℚ) ^ ((exponent : Int) - 1074) ≤ number * (1 + 1 / 2 ^ 52) := by
  have order : binaryOrder number 1 = number.log2 := by
    have one : Nat.log2 1 = 0 := by decide
    have reached : 2 ^ number.log2 ≤ number := Nat.log2_self_le positive
    simp [binaryOrder, one, reached]
  have lower : 2 ^ number.log2 ≤ number := Nat.log2_self_le positive
  have upper : number < 2 ^ (number.log2 + 1) := Nat.lt_log2_self
  have exponent : max ((number.log2 : Int) - 52) (-1074) = number.log2 - 52 := by omega
  have field : ((number.log2 : Int) - 52 + 1074).toNat = number.log2 + 1022 := by omega
  by_cases few : number.log2 < 52
  · obtain ⟨rest, places⟩ : ∃ rest, number.log2 + rest = 52 := ⟨52 - number.log2, by omega⟩
    have shift : (-((number.log2 : Int) - 52)).toNat = rest := by omega
    have split : 2 ^ number.log2 * 2 ^ rest = 2 ^ 52 := by rw [← Nat.pow_add, places]
    refine ⟨number.log2 + 1022, number * 2 ^ rest, ?_, ?_, ?_, ?_⟩
    · exact split.symm.trans_le (Nat.mul_le_mul_right _ lower)
    · calc number * 2 ^ rest ≤ 2 ^ (number.log2 + 1) * 2 ^ rest := Nat.mul_le_mul_right _ upper.le
        _ = 2 ^ 53 := by rw [← Nat.pow_add, Nat.add_right_comm, places]
    · have low : (number.log2 : Int) - 52 < 0 := by omega
      simp only [nearestBits, order, exponent, if_pos low, shift, field, roundHalfEven_one,
        Nat.pow_eq]
    · have power : ((number.log2 + 1022 : Nat) : Int) - 1074 = -(rest : Int) := by omega
      have exact : ((number * 2 ^ rest : Nat) : ℚ) * 2 ^ (-(rest : Int)) = number := by
        push_cast
        rw [zpow_neg, zpow_natCast]
        field_simp
      rw [power, exact]
      have nonneg : (0 : ℚ) ≤ number := Nat.cast_nonneg _
      linarith
  · obtain ⟨rest, places⟩ : ∃ rest, number.log2 = 52 + rest := ⟨number.log2 - 52, by omega⟩
    have shift : ((number.log2 : Int) - 52).toNat = rest := by omega
    have split : 2 ^ number.log2 = 2 ^ 52 * 2 ^ rest := by rw [places, Nat.pow_add]
    have positive : 0 < 2 ^ rest := Nat.two_pow_pos rest
    have up := roundHalfEven_le number (2 ^ rest)
    refine ⟨number.log2 + 1022, roundHalfEven number (2 ^ rest), ?_, ?_, ?_, ?_⟩
    · refine Nat.le_trans ?_ (div_le_roundHalfEven _ _)
      rw [Nat.le_div_iff_mul_le positive, ← split]
      exact lower
    · have below : number / 2 ^ rest < 2 ^ 53 := by
        rw [Nat.div_lt_iff_lt_mul positive, ← Nat.pow_add]
        rwa [show 53 + rest = number.log2 + 1 by omega]
      omega
    · have high : ¬(number.log2 : Int) - 52 < 0 := by omega
      simp only [nearestBits, order, exponent, if_neg high, shift, field, Nat.one_mul, Nat.pow_eq]
    · have power : ((number.log2 + 1022 : Nat) : Int) - 1074 = (rest : Int) := by omega
      have unit : (2 : ℚ) ^ rest ≤ number * (1 / 2 ^ 52) := by
        have least : ((2 ^ 52 * 2 ^ rest : Nat) : ℚ) ≤ number := by
          rw [← split]
          exact_mod_cast lower
        push_cast at least
        linarith
      have up : (roundHalfEven number (2 ^ rest) : ℚ) ≤ (number / 2 ^ rest : Nat) + 1 := by
        exact_mod_cast up
      have cut : ((number / 2 ^ rest : Nat) : ℚ) * 2 ^ rest ≤ number := by
        exact_mod_cast Nat.div_mul_le_self number (2 ^ rest)
      rw [power, zpow_natCast]
      calc (roundHalfEven number (2 ^ rest) : ℚ) * 2 ^ rest
          ≤ ((number / 2 ^ rest : Nat) + 1) * 2 ^ rest := by gcongr
        _ = (number / 2 ^ rest : Nat) * 2 ^ rest + 2 ^ rest := by ring
        _ ≤ number * (1 + 1 / 2 ^ 52) := by linarith

theorem magnitude_ofInt_le (number : Nat) :
    magnitude (ofInt number) ≤ number * (1 + 1 / 2 ^ 52) := by
  by_cases zero : number = 0
  · subst zero
    have bits : ofInt ((0 : Nat) : Int) = signed false 0 := rfl
    have nothing : (Kind.ofBits 0).magnitude = 0 := by
      change ((0 : Nat) : ℚ) * 2 ^ (-1074 : Int) = 0
      rw [Nat.cast_zero, zero_mul]
    rw [bits]
    refine (magnitude_signed_le (by decide)).trans ?_
    rw [nothing]
    simp
  · have bits : ofInt number = signed false (nearestBits number 1) := by
      have positive : ¬(number : Int) < 0 := by omega
      simp [ofInt, floatOf, zero, positive]
    obtain ⟨exponent, mantissa, least, most, nearest, bound⟩ := exists_nearestBits_one zero
    rw [bits, nearest]
    refine (magnitude_signed_le (by omega)).trans ?_
    by_cases finite : exponent * 2 ^ 52 + mantissa < 2047 * 2 ^ 52
    · rw [min_eq_left finite.le, magnitude_ofBits_carry most (Or.inr least) finite]
      exact bound
    · have nothing : (Kind.ofBits (2047 * 2 ^ 52)).magnitude = 0 := rfl
      rw [min_eq_right (by omega), nothing]
      positivity

/-- The whole part of a share of a number is at most the number, if the share is at most three quarters. -/
theorem truncate_share_le {number : Nat} {share : Float} (fraction : magnitude share ≤ 3 / 4)
    {whole : Int} (found : truncate? (ofInt number * share) = some whole) :
    whole.toNat ≤ number := by
  have product := (natAbs_le_magnitude found).trans (magnitude_mul_le (ofInt number) share)
  have factor := magnitude_ofInt_le number
  have least : (2 : ℚ) ^ (-1074 : Int) ≤ 1 / 2 := by
    have known : (2 : ℚ) ^ (-1074 : Int) ≤ 2 ^ (-1 : Int) :=
      zpow_le_zpow_right₀ (by norm_num) (by norm_num)
    simpa using known
  have shares : magnitude (ofInt number) * magnitude share ≤
      number * (1 + 1 / 2 ^ 52) * (3 / 4) := by
    have nonneg : 0 ≤ magnitude share := by
      rw [magnitude_eq_unpack]
      exact unpackedMagnitude_nonneg _
    exact mul_le_mul factor fraction nonneg (by positivity)
  have small : (whole.natAbs : ℚ) < number + 1 := by
    have nonneg : (0 : ℚ) ≤ number := Nat.cast_nonneg _
    calc (whole.natAbs : ℚ)
        ≤ magnitude (ofInt number) * magnitude share * (1 + 1 / 2 ^ 52) + 2 ^ (-1074 : Int) := product
      _ ≤ number * (1 + 1 / 2 ^ 52) * (3 / 4) * (1 + 1 / 2 ^ 52) + 1 / 2 := by gcongr
      _ < number + 1 := by norm_num; linarith
  have small : whole.natAbs < number + 1 := by exact_mod_cast small
  omega

end BooleanSearch.Decimal
