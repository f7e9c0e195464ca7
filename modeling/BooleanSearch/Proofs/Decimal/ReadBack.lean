import BooleanSearch.Decimal.Shortest
import BooleanSearch.Proofs.Decimal.Magnitudes
import Mathlib

/-!
# Digits that read back

The digits chosen for a double stand for a number that is nearer to this double than to any other, or half
way between the two and on the side of the even mantissa.  So the numbers that read back as two doubles
have nothing in common.  With seventeen digits there is always such a number, since the grid is then finer
than the doubles are.
-/

namespace BooleanSearch.Decimal

namespace Dyadic

/-- A fraction as a double has it. -/
structure Canonical (value : Dyadic) : Prop where
  lowest : -1074 ≤ value.exponent
  highest : value.exponent ≤ 971
  places : value.mantissa < 2 ^ 53
  full : value.exponent = -1074 ∨ 2 ^ 52 ≤ value.mantissa

/-- The double below is only half as far away as the one above. -/
def Narrow (value : Dyadic) : Prop :=
  value.mantissa = 2 ^ 52 ∧ value.exponent ≠ -1074

instance (value : Dyadic) : Decidable value.Narrow :=
  inferInstanceAs (Decidable (_ ∧ _))

/-- The lower bound of what reads back, in quarters of the last place. -/
def lowQuarters (value : Dyadic) : Nat :=
  if value.Narrow then 4 * value.mantissa - 1 else 4 * value.mantissa - 2

def highQuarters (value : Dyadic) : Nat :=
  4 * value.mantissa + 2

/-- A quarter of the last place. -/
def quarter (value : Dyadic) : ℚ :=
  2 ^ (value.exponent - 2)

/-- A number is nearest to a double; half way it is so if the mantissa is even. -/
def ReadsBack (value : Dyadic) (number : ℚ) : Prop :=
  value.lowQuarters * value.quarter ≤ number ∧ number ≤ value.highQuarters * value.quarter ∧
    (value.mantissa % 2 = 1 →
      value.lowQuarters * value.quarter ≠ number ∧ number ≠ value.highQuarters * value.quarter)

theorem quarter_pos (value : Dyadic) : 0 < value.quarter := by
  unfold quarter
  positivity

theorem magnitude_eq_quarters (value : Dyadic) :
    value.magnitude = (4 * value.mantissa : Nat) * value.quarter := by
  unfold magnitude quarter
  rw [zpow_sub₀ (by norm_num)]
  push_cast
  ring

theorem pos_of_readsBack {value : Dyadic} (positive : 0 < value.mantissa) {number : ℚ}
    (reads : value.ReadsBack number) : 0 < number := by
  have some : 0 < value.lowQuarters := by
    unfold lowQuarters
    split <;> omega
  have least : (0 : ℚ) < value.lowQuarters * value.quarter :=
    mul_pos (by exact_mod_cast some) value.quarter_pos
  exact least.trans_le reads.1

/-! ## Different doubles -/

/-- The bounds of two doubles do not cross, and they meet only beside an odd mantissa. -/
theorem exists_bounds_of_before {lower upper : Dyadic} (lowerCanonical : lower.Canonical)
    (upperCanonical : upper.Canonical)
    (before : lower.exponent < upper.exponent ∨
      lower.exponent = upper.exponent ∧ lower.mantissa < upper.mantissa) :
    ∃ factor : Nat, factor * lower.quarter ≤ upper.quarter ∧
      lower.highQuarters ≤ factor * upper.lowQuarters ∧
      (lower.highQuarters = factor * upper.lowQuarters →
        lower.mantissa % 2 = 1 ∨ upper.mantissa % 2 = 1) := by
  have places := lowerCanonical.places
  have full := upperCanonical.full
  have lowest := lowerCanonical.lowest
  have low : upper.lowQuarters = 4 * upper.mantissa - 2 ∨
      upper.mantissa = 2 ^ 52 ∧ upper.lowQuarters = 4 * upper.mantissa - 1 := by
    unfold lowQuarters
    split
    · next narrow => exact Or.inr ⟨narrow.1, rfl⟩
    · exact Or.inl rfl
  have high : lower.highQuarters = 4 * lower.mantissa + 2 := rfl
  rcases before with apart | ⟨same, less⟩
  · refine ⟨2, ?_, ?_, ?_⟩
    · have step : ((2 : Nat) : ℚ) * lower.quarter = 2 ^ (lower.exponent - 1) := by
        rw [quarter, show lower.exponent - 1 = 1 + (lower.exponent - 2) by ring,
          zpow_add₀ (by norm_num)]
        norm_num
      rw [step]
      exact zpow_le_zpow_right₀ (by norm_num) (by omega)
    · have narrow : upper.mantissa = 2 ^ 52 → upper.lowQuarters = 4 * upper.mantissa - 1 :=
        fun least => if_pos ⟨least, by omega⟩
      omega
    · have narrow : upper.mantissa = 2 ^ 52 → upper.lowQuarters = 4 * upper.mantissa - 1 :=
        fun least => if_pos ⟨least, by omega⟩
      omega
  · refine ⟨1, ?_, by omega, by omega⟩
    rw [Nat.cast_one, one_mul, quarter, same, quarter]

/-- What reads back as the lower of two doubles does not read back as the higher one. -/
theorem not_readsBack_of_before {lower upper : Dyadic} (lowerCanonical : lower.Canonical)
    (upperCanonical : upper.Canonical)
    (before : lower.exponent < upper.exponent ∨
      lower.exponent = upper.exponent ∧ lower.mantissa < upper.mantissa)
    {number : ℚ} (first : lower.ReadsBack number) (second : upper.ReadsBack number) : False := by
  obtain ⟨factor, quarters, ordered, meet⟩ :=
    exists_bounds_of_before lowerCanonical upperCanonical before
  obtain ⟨-, high, strictHigh⟩ := first
  obtain ⟨low, -, strictLow⟩ := second
  have positive := lower.quarter_pos
  have counts : (lower.highQuarters : ℚ) ≤ factor * upper.lowQuarters := by exact_mod_cast ordered
  have scaled : lower.highQuarters * lower.quarter ≤ factor * upper.lowQuarters * lower.quarter :=
    mul_le_mul_of_nonneg_right counts positive.le
  have widened : upper.lowQuarters * (factor * lower.quarter) ≤
      upper.lowQuarters * upper.quarter :=
    mul_le_mul_of_nonneg_left quarters (Nat.cast_nonneg _)
  have atHigh : number = lower.highQuarters * lower.quarter := by linarith
  have atLow : upper.lowQuarters * upper.quarter = number := by linarith
  have equal : (lower.highQuarters : ℚ) = (factor * upper.lowQuarters : Nat) := by
    apply mul_right_cancel₀ positive.ne'
    push_cast
    linarith
  rcases meet (by exact_mod_cast equal) with odd | odd
  · exact (strictHigh odd).2 atHigh
  · exact (strictLow odd).1 atLow

/-- A number reads back as no more than one double. -/
theorem eq_of_readsBack {first second : Dyadic} (firstCanonical : first.Canonical)
    (secondCanonical : second.Canonical) {number : ℚ} (firstReads : first.ReadsBack number)
    (secondReads : second.ReadsBack number) :
    first.mantissa = second.mantissa ∧ first.exponent = second.exponent := by
  rcases lt_trichotomy first.exponent second.exponent with less | same | more
  · exact (not_readsBack_of_before firstCanonical secondCanonical (Or.inl less) firstReads
      secondReads).elim
  · rcases lt_trichotomy first.mantissa second.mantissa with less | equal | more
    · exact (not_readsBack_of_before firstCanonical secondCanonical (Or.inr ⟨same, less⟩)
        firstReads secondReads).elim
    · exact ⟨equal, same⟩
    · exact (not_readsBack_of_before secondCanonical firstCanonical (Or.inr ⟨same.symm, more⟩)
        secondReads firstReads).elim
  · exact (not_readsBack_of_before secondCanonical firstCanonical (Or.inl more) secondReads
      firstReads).elim

end Dyadic

/-! ## Grids of digits -/

theorem scale_pos (numerator : Nat) {denominator : Nat} (positive : 0 < denominator) (power : Int) :
    0 < (scale numerator denominator power).2 := by
  unfold scale
  split
  · exact Nat.mul_pos positive (Nat.pow_pos (by decide))
  · exact positive

theorem scale_snd (numerator other denominator : Nat) (power : Int) :
    (scale numerator denominator power).2 = (scale other denominator power).2 := by
  unfold scale
  split <;> rfl

theorem scale_fst (numerator : Nat) {denominator : Nat} (positive : 0 < denominator) (power : Int) :
    ((scale numerator denominator power).1 : ℚ) * 10 ^ (-power) =
      numerator / denominator * (scale numerator denominator power).2 := by
  have some : (denominator : ℚ) ≠ 0 := by exact_mod_cast positive.ne'
  unfold scale
  split
  · next negative =>
      obtain ⟨places, spelled⟩ : ∃ places : Nat, power = -(places : Int) :=
        ⟨(-power).toNat, by omega⟩
      simp only [spelled, neg_neg, Int.toNat_natCast, Nat.pow_eq, zpow_natCast]
      push_cast
      field_simp
  · next large =>
      obtain ⟨places, spelled⟩ : ∃ places : Nat, power = (places : Int) := ⟨power.toNat, by omega⟩
      simp only [spelled, Int.toNat_natCast, Nat.pow_eq, zpow_neg, zpow_natCast]
      push_cast
      field_simp

/-- The bounds of what reads back, as they are worked out. -/
theorem exists_readBack (value : Dyadic) :
    ∃ factor denominator : Nat, 0 < denominator ∧ (factor : ℚ) / denominator = value.quarter ∧
      readBack value = (value.lowQuarters * factor, 4 * value.mantissa * factor,
        value.highQuarters * factor, denominator, value.mantissa % 2 == 0) := by
  have low : (if (value.mantissa == Nat.pow 2 52 && value.exponent != -1074) = true then
      4 * value.mantissa - 1 else 4 * value.mantissa - 2) = value.lowQuarters := by
    have same : (value.mantissa == Nat.pow 2 52 && value.exponent != -1074) = true ↔
        value.Narrow := by
      rw [Bool.and_eq_true, beq_iff_eq, bne_iff_ne]
      exact Iff.rfl
    by_cases narrow : value.Narrow
    · rw [if_pos (same.mpr narrow), Dyadic.lowQuarters, if_pos narrow]
    · rw [if_neg (mt same.mp narrow), Dyadic.lowQuarters, if_neg narrow]
  unfold readBack
  dsimp only
  rw [low]
  split
  · next small =>
      obtain ⟨places, spelled⟩ : ∃ places : Nat, value.exponent - 2 = -(places : Int) :=
        ⟨(2 - value.exponent).toNat, by omega⟩
      refine ⟨1, _, Nat.pow_pos (by decide), ?_, rfl⟩
      rw [Dyadic.quarter, spelled, show 2 - value.exponent = places by omega, zpow_neg,
        zpow_natCast, Int.toNat_natCast]
      simp
  · next large =>
      obtain ⟨places, spelled⟩ : ∃ places : Nat, value.exponent - 2 = (places : Int) :=
        ⟨(value.exponent - 2).toNat, by omega⟩
      refine ⟨_, 1, Nat.one_pos, ?_, rfl⟩
      rw [Dyadic.quarter, spelled, zpow_natCast, Int.toNat_natCast]
      simp

/-- A scaled bound compared with a whole number of units of a grid. -/
theorem scaled_le_iff (numerator : Nat) {denominator : Nat} (positive : 0 < denominator)
    (power : Int) (digits : Nat) :
    ((scale numerator denominator power).1 ≤ digits * (scale numerator denominator power).2 ↔
      (numerator : ℚ) / denominator ≤ digits * 10 ^ (-power)) ∧
    (digits * (scale numerator denominator power).2 ≤ (scale numerator denominator power).1 ↔
      digits * (10 : ℚ) ^ (-power) ≤ numerator / denominator) := by
  have scaled := scale_fst numerator positive power
  have unit : (0 : ℚ) < (scale numerator denominator power).2 := by
    exact_mod_cast scale_pos numerator positive power
  have step : (0 : ℚ) < 10 ^ (-power) := by positivity
  generalize (scale numerator denominator power).1 = amount at scaled ⊢
  generalize (scale numerator denominator power).2 = units at scaled unit ⊢
  constructor
  · calc amount ≤ digits * units ↔ (amount : ℚ) ≤ digits * units := by exact_mod_cast Iff.rfl
      _ ↔ amount * (10 : ℚ) ^ (-power) ≤ digits * units * 10 ^ (-power) :=
          (mul_le_mul_iff_left₀ step).symm
      _ ↔ numerator / denominator * (units : ℚ) ≤ digits * 10 ^ (-power) * units := by
          rw [scaled, mul_right_comm]
      _ ↔ (numerator : ℚ) / denominator ≤ digits * 10 ^ (-power) := mul_le_mul_iff_left₀ unit
  · calc digits * units ≤ amount ↔ (digits : ℚ) * units ≤ amount := by exact_mod_cast Iff.rfl
      _ ↔ digits * units * (10 : ℚ) ^ (-power) ≤ amount * 10 ^ (-power) :=
          (mul_le_mul_iff_left₀ step).symm
      _ ↔ digits * 10 ^ (-power) * (units : ℚ) ≤ numerator / denominator * units := by
          rw [scaled, mul_right_comm]
      _ ↔ digits * (10 : ℚ) ^ (-power) ≤ numerator / denominator := mul_le_mul_iff_left₀ unit

theorem roundHalfEven_eq_or (numerator denominator : Nat) :
    roundHalfEven numerator denominator = numerator / denominator ∨
      roundHalfEven numerator denominator = numerator / denominator + 1 := by
  have low := div_le_roundHalfEven numerator denominator
  have high := roundHalfEven_le numerator denominator
  omega

/-- What decides whether a multiple of some unit reads back. -/
theorem readsBack_iff {value : Dyadic} {lowest highest amount : Nat} {number : ℚ}
    (low : (lowest ≤ amount ↔ value.lowQuarters * value.quarter ≤ number) ∧
      (amount ≤ lowest ↔ number ≤ value.lowQuarters * value.quarter))
    (high : (highest ≤ amount ↔ value.highQuarters * value.quarter ≤ number) ∧
      (amount ≤ highest ↔ number ≤ value.highQuarters * value.quarter)) :
    (if (value.mantissa % 2 == 0) = true then
      decide (lowest ≤ amount) && decide (amount ≤ highest)
      else decide (lowest < amount) && decide (amount < highest)) = true ↔
      value.ReadsBack number := by
  unfold Dyadic.ReadsBack
  rw [← low.1, ← high.2]
  by_cases even : value.mantissa % 2 = 0
  · simp [even]
  · have odd : value.mantissa % 2 = 1 := by omega
    have lowNe : value.lowQuarters * value.quarter ≠ number ↔ ¬(lowest ≤ amount ∧ amount ≤ lowest) := by
      rw [low.1, low.2, ← le_antisymm_iff]
    have highNe : number ≠ value.highQuarters * value.quarter ↔
        ¬(amount ≤ highest ∧ highest ≤ amount) := by
      rw [high.1, high.2, ← le_antisymm_iff]
    rw [lowNe, highNe]
    simp only [odd, Nat.one_ne_zero, beq_iff_eq, if_false, Bool.and_eq_true, decide_eq_true_eq,
      forall_const]
    omega

/-- The neighbours of a double on a grid, of which one is chosen if it reads back. -/
theorem onGrid?_spec (value : Dyadic) (point : Int) (count : Nat) :
    ∃ below : Nat, below * (10 : ℚ) ^ (point - count) ≤ value.magnitude ∧
      value.magnitude < (below + 1 : Nat) * (10 : ℚ) ^ (point - count) ∧
      match onGrid? value point count with
      | some digits => (digits = below ∨ digits = below + 1) ∧
          value.ReadsBack (digits * (10 : ℚ) ^ (point - count))
      | none => ¬value.ReadsBack (below * (10 : ℚ) ^ (point - count)) ∧
          ¬value.ReadsBack ((below + 1 : Nat) * (10 : ℚ) ^ (point - count)) := by
  obtain ⟨factor, denominator, positive, quarter, bounds⟩ := exists_readBack value
  have bound : ∀ quarters : Nat, ((quarters * factor : Nat) : ℚ) / denominator =
      quarters * value.quarter := by
    intro quarters
    rw [← quarter]
    push_cast
    ring
  have power : -((count : Int) - point) = point - count := by ring
  have compare := fun quarters => scaled_le_iff (quarters * factor) positive ((count : Int) - point)
  simp only [bound, power] at compare
  have unit := scale_pos (4 * value.mantissa * factor) positive ((count : Int) - point)
  have same := fun quarters => scale_snd (quarters * factor) (4 * value.mantissa * factor)
    denominator ((count : Int) - point)
  unfold onGrid?
  simp only [bounds]
  simp only [same] at compare
  generalize (scale (4 * value.mantissa * factor) denominator (count - point)).2 = units
    at compare unit ⊢
  have exact := compare (4 * value.mantissa)
  generalize (scale (4 * value.mantissa * factor) denominator (count - point)).1 = amount
    at exact ⊢
  rw [value.magnitude_eq_quarters]
  refine ⟨amount / units, (exact _).2.mp (Nat.div_mul_le_self _ _), ?_, ?_⟩
  · refine lt_of_not_ge fun reached => ?_
    have reached := (exact _).2.mpr reached
    have beyond := Nat.lt_div_mul_add unit (a := amount)
    rw [Nat.add_mul] at reached
    omega
  · have low := compare value.lowQuarters
    have high := compare value.highQuarters
    generalize (scale (value.lowQuarters * factor) denominator (count - point)).1 = lowest at low ⊢
    generalize (scale (value.highQuarters * factor) denominator (count - point)).1 = highest at high ⊢
    have readsBelow := readsBack_iff (low (amount / units)) (high (amount / units))
    have readsAbove := readsBack_iff (low (amount / units + 1)) (high (amount / units + 1))
    split
    · next digits chosen =>
        split at chosen
        · next yes _ =>
            cases chosen
            exact ⟨Or.inl rfl, readsBelow.mp yes⟩
        · next _ yes =>
            cases chosen
            exact ⟨Or.inr rfl, readsAbove.mp yes⟩
        · next first second =>
            cases chosen
            rcases roundHalfEven_eq_or amount units with same | same
            · rw [same]
              exact ⟨Or.inl rfl, readsBelow.mp first⟩
            · rw [same]
              exact ⟨Or.inr rfl, readsAbove.mp second⟩
        · cases chosen
    · next chosen =>
        split at chosen
        · cases chosen
        · cases chosen
        · cases chosen
        · next first second =>
            rw [← readsBelow, ← readsAbove, first, second]
            exact ⟨Bool.false_ne_true, Bool.false_ne_true⟩

theorem readsBack_of_between {value : Dyadic} {number : ℚ}
    (low : value.lowQuarters * value.quarter < number)
    (high : number < value.highQuarters * value.quarter) : value.ReadsBack number :=
  ⟨low.le, high.le, fun _ => ⟨low.ne, high.ne⟩⟩

theorem magnitude_between (value : Dyadic) :
    value.lowQuarters * value.quarter ≤ value.magnitude ∧
      value.magnitude < value.highQuarters * value.quarter := by
  have quarter := value.quarter_pos
  have low : value.lowQuarters ≤ 4 * value.mantissa := by
    unfold Dyadic.lowQuarters
    split <;> omega
  have high : 4 * value.mantissa < value.highQuarters := by
    unfold Dyadic.highQuarters
    omega
  rw [value.magnitude_eq_quarters]
  exact ⟨mul_le_mul_of_nonneg_right (by exact_mod_cast low) quarter.le,
    mul_lt_mul_of_pos_right (by exact_mod_cast high) quarter⟩

/-- With seventeen digits there is a number that reads back: the grid is finer than the doubles. -/
theorem exists_onGrid?_seventeen {value : Dyadic} (canonical : value.Canonical) {point : Int}
    (least : (10 : ℚ) ^ (point - 1) ≤ value.magnitude) :
    ∃ digits, onGrid? value point 17 = some digits := by
  obtain ⟨below, under, beyond, choice⟩ := onGrid?_spec value point 17
  cases chosen : onGrid? value point 17 with
  | some digits => exact ⟨digits, rfl⟩
  | none =>
      exfalso
      rw [chosen] at choice
      obtain ⟨notBelow, notAbove⟩ := choice
      have unit : (10 : ℚ) ^ (point - (17 : Nat)) * 10 ^ 16 ≤ value.magnitude := by
        refine le_trans (le_of_eq ?_) least
        rw [← zpow_natCast, ← zpow_add₀ (by norm_num)]
        congr 1
        push_cast
        ring
      generalize (10 : ℚ) ^ (point - (17 : Nat)) = step at under beyond notBelow notAbove unit
      obtain ⟨atLeast, atMost⟩ := magnitude_between value
      have low : below * step ≤ value.lowQuarters * value.quarter :=
        le_of_not_gt fun inside => notBelow (readsBack_of_between inside (under.trans_lt atMost))
      have high : value.highQuarters * value.quarter ≤ (below + 1 : Nat) * step :=
        le_of_not_gt fun inside => notAbove (readsBack_of_between (atLeast.trans_lt beyond) inside)
      have fine : value.lowQuarters * 10 ^ 16 + 4 * value.mantissa < value.highQuarters * 10 ^ 16 := by
        have places := canonical.places
        unfold Dyadic.lowQuarters Dyadic.highQuarters
        split
        · next narrow =>
            have least := narrow.1
            omega
        · omega
      have fine : (value.lowQuarters : ℚ) * 10 ^ 16 + (4 * value.mantissa : Nat) <
          value.highQuarters * 10 ^ 16 := by exact_mod_cast fine
      have scaled := mul_lt_mul_of_pos_right fine value.quarter_pos
      have exact := value.magnitude_eq_quarters
      push_cast at high scaled exact
      linarith

/-! ## The digits of a double -/

theorem below_iff (numerator : Nat) {denominator : Nat} (positive : 0 < denominator) (point : Int) :
    (if point < 0 then numerator * Nat.pow 10 (-point).toNat < denominator
      else numerator < denominator * Nat.pow 10 point.toNat) ↔
      (numerator : ℚ) / denominator < 10 ^ point := by
  have some : (0 : ℚ) < denominator := by exact_mod_cast positive
  rw [div_lt_iff₀ some]
  split
  · next negative =>
      obtain ⟨places, spelled⟩ : ∃ places : Nat, point = -(places : Int) :=
        ⟨(-point).toNat, by omega⟩
      have step : (0 : ℚ) < 10 ^ places := by positivity
      rw [spelled, neg_neg, Int.toNat_natCast, Nat.pow_eq, zpow_neg, zpow_natCast,
        ← mul_lt_mul_iff_left₀ step]
      have cancelled : ((10 : ℚ) ^ places)⁻¹ * denominator * 10 ^ places = denominator := by
        field_simp
      rw [cancelled]
      exact_mod_cast Iff.rfl
  · obtain ⟨places, spelled⟩ : ∃ places : Nat, point = (places : Int) := ⟨point.toNat, by omega⟩
    rw [spelled, Int.toNat_natCast, Nat.pow_eq, zpow_natCast, mul_comm]
    exact_mod_cast Iff.rfl

/-- The point that is found is the first beyond the number. -/
theorem pointFrom_spec {numerator denominator : Nat} (positive : 0 < denominator) :
    ∀ (fuel : Nat) (point : Int), (10 : ℚ) ^ (point - 1) ≤ numerator / denominator →
      (numerator : ℚ) / denominator < 10 ^ (point + fuel) →
      (10 : ℚ) ^ (pointFrom numerator denominator fuel point - 1) ≤ numerator / denominator ∧
        (numerator : ℚ) / denominator < 10 ^ pointFrom numerator denominator fuel point
  | 0, point, reached, beyond => by
      rw [Nat.cast_zero, add_zero] at beyond
      exact ⟨reached, beyond⟩
  | fuel + 1, point, reached, beyond => by
      have choice := below_iff numerator positive point
      rw [pointFrom]
      by_cases below : (numerator : ℚ) / denominator < 10 ^ point
      · rw [if_pos (choice.mpr below)]
        exact ⟨reached, below⟩
      · rw [if_neg (mt choice.mp below)]
        have further := le_of_not_gt below
        apply pointFrom_spec positive fuel (point + 1)
        · rwa [add_sub_cancel_right]
        · rwa [add_assoc, add_comm (1 : Int), ← Nat.cast_succ]

theorem firstGrid_spec (value : Dyadic) (point : Int) :
    ∀ fuel count, (∃ digits, onGrid? value point (count + fuel) = some digits) →
      count ≤ (firstGrid value point fuel count).2 ∧
      onGrid? value point (firstGrid value point fuel count).2 =
        some (firstGrid value point fuel count).1
  | 0, count, ⟨digits, found⟩ => by
      rw [Nat.add_zero] at found
      simp only [firstGrid, found, Option.getD_some]
      exact ⟨Nat.le_refl _, trivial⟩
  | fuel + 1, count, reached => by
      rw [firstGrid]
      split
      · next digits found => exact ⟨Nat.le_refl _, found⟩
      · have later := firstGrid_spec value point fuel (count + 1)
          (by rwa [Nat.add_right_comm, Nat.add_assoc])
        exact ⟨Nat.le_of_succ_le later.1, later.2⟩

/-- Zeros at the end are dropped, and the number stays. -/
theorem dropZeros_spec (point : Int) :
    ∀ (fuel digits count : Nat), 1 ≤ count → digits < 10 ^ count →
      1 ≤ (dropZeros fuel digits count).2 ∧
      (dropZeros fuel digits count).1 < 10 ^ (dropZeros fuel digits count).2 ∧
      ((dropZeros fuel digits count).1 : ℚ) * 10 ^ (point - (dropZeros fuel digits count).2) =
        digits * 10 ^ (point - count)
  | 0, digits, count, one, few => ⟨one, few, rfl⟩
  | fuel + 1, digits, count, one, few => by
      rw [dropZeros]
      split
      · next zero =>
          simp only [Bool.and_eq_true, beq_iff_eq, decide_eq_true_eq] at zero
          obtain ⟨rest, rfl⟩ : ∃ rest, digits = 10 * rest := ⟨digits / 10, by omega⟩
          obtain ⟨less, rfl⟩ : ∃ less, count = less + 1 := ⟨count - 1, by omega⟩
          have fewer : rest < 10 ^ less := by
            rw [Nat.pow_succ] at few
            omega
          have shorter := dropZeros_spec point fuel rest less (by omega) fewer
          rw [Nat.mul_div_cancel_left _ (by decide), Nat.add_sub_cancel]
          refine ⟨shorter.1, shorter.2.1, shorter.2.2.trans ?_⟩
          have step : point - less = point - (less + 1 : Nat) + 1 := by
            push_cast
            ring
          rw [step, zpow_add_one₀ (by norm_num)]
          push_cast
          ring
      · exact ⟨one, few, rfl⟩

theorem Dyadic.Canonical.magnitude_bounds {value : Dyadic} (canonical : value.Canonical)
    (positive : 0 < value.mantissa) :
    (10 : ℚ) ^ (-331 : Int) ≤ value.magnitude ∧ value.magnitude < 10 ^ (370 : Int) := by
  have low : (2 : ℚ) ^ (1074 : Nat) ≤ 10 ^ (331 : Nat) := by
    have counts : 2 ^ 1074 ≤ 10 ^ 331 := by decide +kernel
    exact_mod_cast counts
  have high : (2 : ℚ) ^ (1024 : Nat) ≤ 10 ^ (370 : Nat) := by
    have counts : 2 ^ 1024 ≤ 10 ^ 370 := by decide +kernel
    exact_mod_cast counts
  have one : (1 : ℚ) ≤ value.mantissa := by exact_mod_cast positive
  have places : (value.mantissa : ℚ) < 2 ^ (53 : Nat) := by exact_mod_cast canonical.places
  have least : (2 : ℚ) ^ (-1074 : Int) ≤ 2 ^ value.exponent :=
    zpow_le_zpow_right₀ (by norm_num) canonical.lowest
  have most : (2 : ℚ) ^ value.exponent ≤ 2 ^ (971 : Int) :=
    zpow_le_zpow_right₀ (by norm_num) canonical.highest
  constructor
  · calc (10 : ℚ) ^ (-331 : Int) = (10 ^ (331 : Nat))⁻¹ := zpow_neg_coe_of_pos 10 (by decide)
      _ ≤ (2 ^ (1074 : Nat))⁻¹ := inv_anti₀ (by positivity) low
      _ = 2 ^ (-1074 : Int) := (zpow_neg_coe_of_pos 2 (by decide)).symm
      _ ≤ 1 * 2 ^ value.exponent := by rw [one_mul]; exact least
      _ ≤ value.magnitude := mul_le_mul_of_nonneg_right one (by positivity)
  · calc value.magnitude < 2 ^ (53 : Nat) * 2 ^ value.exponent :=
          mul_lt_mul_of_pos_right places (by positivity)
      _ ≤ 2 ^ (53 : Nat) * 2 ^ (971 : Int) := mul_le_mul_of_nonneg_left most (by positivity)
      _ = 2 ^ (1024 : Nat) := by
          have total : ((53 : Nat) : Int) + 971 = ((1024 : Nat) : Int) := by decide
          rw [← zpow_natCast, ← zpow_natCast, ← zpow_add₀ (by norm_num), total]
      _ ≤ 10 ^ (370 : Nat) := high
      _ = 10 ^ (370 : Int) := (zpow_natCast _ _).symm

theorem point_spec {value : Dyadic} (canonical : value.Canonical) (positive : 0 < value.mantissa) :
    (10 : ℚ) ^ (value.point - 1) ≤ value.magnitude ∧ value.magnitude < 10 ^ value.point := by
  have denominator : 0 < value.fraction.2 := by
    unfold Dyadic.fraction
    split
    · exact Nat.pow_pos (by decide)
    · exact Nat.one_pos
  obtain ⟨least, most⟩ := canonical.magnitude_bounds positive
  rw [value.magnitude_eq_fraction] at least most ⊢
  rw [show (-331 : Int) = -330 - 1 by norm_num] at least
  rw [show (370 : Int) = -330 + (700 : Nat) by norm_num] at most
  unfold Dyadic.point
  exact pointFrom_spec denominator 700 (-330) least most

/-- Digits on a grid that is as fine as they say stand for the same number without zeros at the end. -/
theorem ofGrid_spec (point : Int) {grid : Nat × Nat} (one : 1 ≤ grid.2) (few : grid.1 ≤ 10 ^ grid.2) :
    1 ≤ (Digits.ofGrid point grid).count ∧
      (Digits.ofGrid point grid).digits < 10 ^ (Digits.ofGrid point grid).count ∧
      ((Digits.ofGrid point grid).digits : ℚ) *
          10 ^ ((Digits.ofGrid point grid).point - (Digits.ofGrid point grid).count) =
        grid.1 * 10 ^ (point - grid.2) := by
  unfold Digits.ofGrid
  by_cases full : grid.1 = 10 ^ grid.2
  · rw [if_pos (by simpa using full), full]
    refine ⟨Nat.le_refl _, show 1 < 10 ^ 1 by decide, ?_⟩
    push_cast
    rw [one_mul, add_sub_cancel_right, zpow_sub₀ (by norm_num), zpow_natCast]
    field_simp
  · rw [if_neg (by simpa using full)]
    exact dropZeros_spec point grid.2 grid.1 grid.2 one (by omega)

theorem shortestDigits_eq (value : Dyadic) :
    shortestDigits value = .ofGrid value.point (firstGrid value value.point 16 1) := rfl

/-- The first grid with a number that reads back is no finer than one of seventeen digits. -/
theorem firstGrid_shortest {value : Dyadic} (canonical : value.Canonical) {point : Int}
    (reached : (10 : ℚ) ^ (point - 1) ≤ value.magnitude) {grid : Nat × Nat}
    (first : firstGrid value point 16 1 = grid) :
    1 ≤ grid.2 ∧ onGrid? value point grid.2 = some grid.1 := by
  rw [← first]
  exact firstGrid_spec value point 16 1 (exists_onGrid?_seventeen canonical reached)

/-- The digits of a double are as many as they say, and read back. -/
theorem shortestDigits_spec {value : Dyadic} (canonical : value.Canonical)
    (positive : 0 < value.mantissa) {number : Digits} (shortest : shortestDigits value = number) :
    1 ≤ number.count ∧ number.digits < 10 ^ number.count ∧
      value.ReadsBack (number.digits * 10 ^ (number.point - number.count)) := by
  obtain ⟨reached, beyond⟩ := point_spec canonical positive
  rw [shortestDigits_eq] at shortest
  generalize value.point = point at reached beyond shortest
  generalize first : firstGrid value point 16 1 = grid at shortest
  obtain ⟨one, found⟩ := firstGrid_shortest canonical reached first
  obtain ⟨below, under, -, choice⟩ := onGrid?_spec value point grid.2
  rw [found] at choice
  obtain ⟨near, reads⟩ := choice
  have few : below < 10 ^ grid.2 := by
    have step : (0 : ℚ) < 10 ^ (point - grid.2) := by positivity
    have whole : (10 : ℚ) ^ point = 10 ^ grid.2 * 10 ^ (point - grid.2) := by
      rw [← zpow_natCast, ← zpow_add₀ (by norm_num), add_sub_cancel]
    have less := under.trans_lt beyond
    rw [whole, mul_lt_mul_iff_left₀ step] at less
    exact_mod_cast less
  obtain ⟨count, digits, same⟩ := ofGrid_spec point one (show grid.1 ≤ 10 ^ grid.2 by omega)
  rw [shortest] at count digits same
  refine ⟨count, digits, ?_⟩
  rw [same]
  exact reads

end BooleanSearch.Decimal
