import QueryDialect.Proofs.NumberTexts
import QueryDialect.Proofs.RoundingIntervals

/-!
# Decimals of floating-point numbers

The decimal of a finite number other than zero rounds to it and has the greatest power of ten of all
that do. So it has one digit just when some decimal of one digit rounds to the number, and it
reaches a power of ten just when the number does, as long as no smaller number has that power in its
reach.
-/
namespace QueryDialect.Number

namespace Decimal

variable {d : Decimal}

/-- The leading digit says how large the number is. -/
lemma pow_leading_le_toRat (positive : 0 < d.coefficient) :
    (10 : ℚ) ^ d.leading ≤ d.toRat ∧ d.toRat < 10 ^ (d.leading + 1) := by
  have some_digit := d.length_digits_pos
  have ten : (0 : ℚ) < 10 ^ d.exponent := by positivity
  have upper := (d.length_digits_le_iff _ some_digit).1 le_rfl
  have lower : 10 ^ (d.digits.length - 1) ≤ d.coefficient := by
    rcases Nat.eq_or_lt_of_le some_digit with one | more
    · rw [← one]
      exact positive
    · by_contra less
      have := (d.length_digits_le_iff (d.digits.length - 1) (by omega)).2 (by omega)
      omega
  have power (count : ℕ) (shift : ℤ) (same : shift = d.exponent + count) :
      (10 : ℚ) ^ shift = (10 ^ count : ℕ) * 10 ^ d.exponent := by
    rw [same, zpow_add₀ (by norm_num), zpow_natCast]
    push_cast
    ring
  rw [power (d.digits.length - 1) d.leading (by rw [leading]; omega),
    power d.digits.length (d.leading + 1) (by rw [leading]; omega), toRat]
  exact ⟨mul_le_mul_of_nonneg_right (by exact_mod_cast lower) ten.le,
    mul_lt_mul_of_pos_right (by exact_mod_cast upper) ten⟩

lemma pow_le_toRat_iff (positive : 0 < d.coefficient) {power : ℤ} :
    (10 : ℚ) ^ power ≤ d.toRat ↔ power ≤ d.leading := by
  obtain ⟨lower, upper⟩ := pow_leading_le_toRat positive
  constructor
  · intro le
    have less := (zpow_lt_zpow_iff_right₀ (by norm_num : (1 : ℚ) < 10)).1 (le.trans_lt upper)
    omega
  · intro le
    exact (zpow_le_zpow_right₀ (by norm_num) le).trans lower

end Decimal

namespace Binary64

variable {x : Binary64}

/-- The magnitude of a finite number. -/
def abs (x : Binary64) : ℚ := x.significand * 2 ^ x.scale

lemma fraction_lt (x : Binary64) : x.fraction < 2 ^ 52 := Nat.mod_lt _ (by decide)

lemma significand_lt (x : Binary64) : x.significand < 2 ^ 53 := by
  have fraction := x.fraction_lt
  unfold significand
  simp only [Nat.pow_eq]
  split_ifs <;> omega

lemma significand_pos (nonzero : x.isZero = false) : 0 < x.significand := by
  unfold significand
  split_ifs with subnormal
  · refine Nat.pos_of_ne_zero fun zero => ?_
    rw [isZero, subnormal, zero] at nonzero
    cases nonzero
  · simp

lemma le_scale (x : Binary64) : -1074 ≤ x.scale := by
  unfold scale
  split_ifs <;> omega

lemma scale_le (finite : x.isFinite = true) : x.scale ≤ 971 := by
  have bits : x.exponentBits < 2048 := Nat.mod_lt _ (by decide)
  have bounded : x.exponentBits ≠ 2047 := by simpa [isFinite] using finite
  unfold scale
  split_ifs <;> omega

/-- All but the smallest numbers use all bits of the significand. -/
lemma le_significand (h : -1074 < x.scale) : 2 ^ 52 ≤ x.significand := by
  have normal : x.exponentBits ≠ 0 := by
    intro subnormal
    rw [scale, if_pos subnormal] at h
    exact absurd h (lt_irrefl _)
  rw [significand, if_neg normal]
  exact Nat.le_add_right _ _

lemma roundingInterval_proper (nonzero : x.isZero = false) : x.roundingInterval.Proper := by
  have positive := significand_pos nonzero
  constructor
  · simp only [roundingInterval]
    split_ifs <;> omega
  · simp only [roundingInterval]
    split_ifs <;> omega
  · simp only [roundingInterval]
    omega

lemma two_zpow_unit (x : Binary64) :
    (2 : ℚ) ^ x.roundingInterval.unit = 2 ^ x.scale / 4 := by
  have unit : x.roundingInterval.unit = x.scale - 2 := rfl
  rw [unit, zpow_sub₀ (by norm_num)]
  norm_num

lemma center_eq (x : Binary64) :
    (x.roundingInterval.center : ℚ) * 2 ^ x.roundingInterval.unit = x.abs := by
  have center : x.roundingInterval.center = 4 * x.significand := rfl
  rw [two_zpow_unit, center, abs]
  push_cast
  ring

lemma high_eq (x : Binary64) :
    (x.roundingInterval.high : ℚ) * 2 ^ x.roundingInterval.unit =
      (x.significand + 1 / 2) * 2 ^ x.scale := by
  have high : x.roundingInterval.high = 4 * x.significand + 2 := rfl
  rw [two_zpow_unit, high]
  push_cast
  ring

lemma significand_add_half_lt (x : Binary64) : (x.significand : ℚ) + 1 / 2 < 2 ^ 53 := by
  have less : (x.significand : ℚ) + 1 ≤ 2 ^ 53 := by exact_mod_cast x.significand_lt
  linarith

lemma high_lt (finite : x.isFinite = true) : (x.roundingInterval.high : ℚ) *
    2 ^ x.roundingInterval.unit < 10 ^ RoundingInterval.coarsest := by
  have scale : (2 : ℚ) ^ x.scale ≤ 2 ^ (971 : ℤ) :=
    zpow_le_zpow_right₀ (by norm_num) (scale_le finite)
  have powers : 2 ^ 53 * 2 ^ 971 < 10 ^ 309 := by decide +kernel
  rw [high_eq]
  calc ((x.significand : ℚ) + 1 / 2) * 2 ^ x.scale ≤ 2 ^ 53 * 2 ^ (971 : ℤ) :=
        mul_le_mul x.significand_add_half_lt.le scale (by positivity) (by positivity)
    _ = ((2 ^ 53 * 2 ^ 971 : ℕ) : ℚ) := by
        rw [Nat.cast_mul, Nat.cast_pow, Nat.cast_pow]
        rfl
    _ < ((10 ^ 309 : ℕ) : ℚ) := Nat.cast_lt.2 powers
    _ = 10 ^ RoundingInterval.coarsest := by
        rw [Nat.cast_pow]
        rfl

/-- The finest grid is finer than the interval around any number. -/
lemma finest_lt_unit (x : Binary64) : (10 : ℚ) ^ (-324 : ℤ) < 2 ^ x.roundingInterval.unit := by
  have least : (-1076 : ℤ) ≤ x.roundingInterval.unit := by
    have := x.le_scale
    change -1076 ≤ x.scale - 2
    omega
  have powers : 2 ^ 1076 < 10 ^ 324 := by decide +kernel
  calc (10 : ℚ) ^ (-324 : ℤ) < 2 ^ (-1076 : ℤ) := by
        rw [zpow_neg, zpow_neg]
        exact inv_strictAnti₀ (by positivity) (by exact_mod_cast powers)
    _ ≤ 2 ^ x.roundingInterval.unit := zpow_le_zpow_right₀ (by norm_num) least

variable (finite : x.isFinite = true) (nonzero : x.isZero = false)
include finite nonzero

/-- The decimal of a number rounds to it, and no decimal with a greater power of ten does. -/
lemma shortest_spec : x.roundingInterval.Holds x.roundingInterval.shortest.toRat ∧
    ∀ (m : ℕ) (power : ℤ), x.roundingInterval.Holds (m * 10 ^ power) →
      power ≤ x.roundingInterval.shortest.exponent := by
  have proper := roundingInterval_proper nonzero
  obtain ⟨n, held⟩ := proper.exists_holds x.finest_lt_unit
  obtain ⟨taken, coarsest⟩ := proper.shortest_spec held (by decide) (by decide)
  refine ⟨taken, fun m power other => coarsest m power ?_ other⟩
  by_contra beyond
  have some_units : (1 : ℚ) ≤ m := by
    have positive : m ≠ 0 := by
      rintro rfl
      simpa using proper.pos_of_holds other
    exact_mod_cast Nat.one_le_iff_ne_zero.2 positive
  have reached : (10 : ℚ) ^ RoundingInterval.coarsest ≤ m * 10 ^ power :=
    calc (10 : ℚ) ^ RoundingInterval.coarsest ≤ 10 ^ power :=
          zpow_le_zpow_right₀ (by norm_num) (by omega)
      _ ≤ m * 10 ^ power := le_mul_of_one_le_left (by positivity) some_units
  exact absurd (reached.trans other.le_high) (not_le.2 (high_lt finite))

lemma coefficient_pos : 0 < x.roundingInterval.shortest.coefficient := by
  have positive := (roundingInterval_proper nonzero).pos_of_holds (shortest_spec finite nonzero).1
  refine Nat.pos_of_ne_zero fun zero => ?_
  rw [Decimal.toRat, zero, Nat.cast_zero, zero_mul] at positive
  exact absurd positive (lt_irrefl _)

/-- The decimal has one digit just when some decimal of one digit rounds to the number. -/
lemma coefficient_lt_ten_iff : x.roundingInterval.shortest.coefficient < 10 ↔
    ∃ (digit : ℕ) (power : ℤ), digit < 10 ∧ x.roundingInterval.Holds (digit * 10 ^ power) := by
  obtain ⟨taken, coarsest⟩ := shortest_spec finite nonzero
  constructor
  · exact fun single => ⟨_, _, single, taken⟩
  · rintro ⟨digit, power, single, held⟩
    by_contra more
    have order := coarsest digit power held
    generalize x.roundingInterval.shortest = d at *
    -- the next power of ten lies between the two decimals
    have next : x.roundingInterval.Holds ((1 : ℕ) * 10 ^ (d.exponent + 1)) := by
      refine held.between taken ?_ ?_
      · have small : (digit : ℚ) ≤ 10 := by exact_mod_cast single.le
        calc (digit : ℚ) * 10 ^ power ≤ 10 * 10 ^ d.exponent :=
              mul_le_mul small (zpow_le_zpow_right₀ (by norm_num) order) (by positivity)
                (by norm_num)
          _ = (1 : ℕ) * 10 ^ (d.exponent + 1) := by
              rw [zpow_add_one₀ (by norm_num), Nat.cast_one]
              ring
      · have large : (10 : ℚ) ≤ d.coefficient := by exact_mod_cast not_lt.1 more
        rw [zpow_add_one₀ (by norm_num), Nat.cast_one, one_mul, mul_comm, Decimal.toRat]
        exact mul_le_mul_of_nonneg_right large (by positivity)
    have := coarsest 1 _ next
    omega

/-- The decimal reaches a power of ten just when the number does, if no number below that power
rounds up to it. -/
lemma pow_le_shortest_iff {power : ℤ}
    (gap : x.abs < 10 ^ power → ¬x.roundingInterval.Holds (10 ^ power)) :
    (10 : ℚ) ^ power ≤ x.roundingInterval.shortest.toRat ↔ 10 ^ power ≤ x.abs := by
  obtain ⟨taken, coarsest⟩ := shortest_spec finite nonzero
  have center := (roundingInterval_proper nonzero).holds_center
  rw [center_eq] at center
  constructor
  · intro reached
    by_contra less
    exact gap (not_le.1 less) (center.between taken (not_le.1 less).le reached)
  · intro reached
    by_contra less
    have held := taken.between center (not_le.1 less).le reached
    have order := coarsest 1 power (by rwa [Nat.cast_one, one_mul])
    have some_units : (1 : ℚ) ≤ x.roundingInterval.shortest.coefficient := by
      exact_mod_cast coefficient_pos finite nonzero
    refine less ?_
    calc (10 : ℚ) ^ power ≤ 10 ^ x.roundingInterval.shortest.exponent :=
          zpow_le_zpow_right₀ (by norm_num) order
      _ ≤ x.roundingInterval.shortest.toRat := le_mul_of_one_le_left (by positivity) some_units

omit finite nonzero in
/-- No number below a bound is rounded up to it, if the bound lies in the upper half of the gap in
front of the number `n * 2 ^ place` and `n` has as many bits as significands have. -/
lemma not_holds_of_abs_lt {bound : ℚ} (place : ℤ) (n : ℕ) (least : -1074 ≤ place)
    (bits : 2 ^ 52 < n ∧ n ≤ 2 ^ 53)
    (upper : ((n : ℚ) - 1 / 2) * 2 ^ place < bound ∧ bound ≤ n * 2 ^ place)
    (less : x.abs < bound) : ¬x.roundingInterval.Holds bound := by
  intro held
  have reach := held.le_high
  rw [high_eq] at reach
  refine absurd (upper.1.trans_le reach) (not_lt.2 ?_)
  have unit : (0 : ℚ) < 2 ^ place := by positivity
  rw [abs] at less
  rcases lt_trichotomy x.scale place with finer | same | coarser
  · have many : (2 : ℚ) ^ 52 + 1 ≤ n := by exact_mod_cast bits.1
    calc ((x.significand : ℚ) + 1 / 2) * 2 ^ x.scale ≤ 2 ^ 53 * 2 ^ x.scale :=
          mul_le_mul_of_nonneg_right x.significand_add_half_lt.le (by positivity)
      _ = 2 ^ 52 * 2 ^ (x.scale + 1) := by
          rw [zpow_add_one₀ (by norm_num)]
          ring
      _ ≤ 2 ^ 52 * 2 ^ place :=
          mul_le_mul_of_nonneg_left (zpow_le_zpow_right₀ (by norm_num) finer) (by positivity)
      _ ≤ ((n : ℚ) - 1 / 2) * 2 ^ place := mul_le_mul_of_nonneg_right (by linarith) unit.le
  · rw [same] at less ⊢
    have below : x.significand < n := by
      exact_mod_cast lt_of_mul_lt_mul_right (less.trans_le upper.2) unit.le
    have next : (x.significand : ℚ) + 1 ≤ n := by exact_mod_cast below
    exact mul_le_mul_of_nonneg_right (by linarith) unit.le
  · have full : (2 : ℚ) ^ 52 ≤ x.significand := by exact_mod_cast le_significand (by omega)
    have few : (n : ℚ) ≤ 2 ^ 53 := by exact_mod_cast bits.2
    have beyond : bound ≤ x.significand * 2 ^ x.scale :=
      calc bound ≤ n * 2 ^ place := upper.2
        _ ≤ 2 ^ 53 * 2 ^ place := mul_le_mul_of_nonneg_right few unit.le
        _ = 2 ^ 52 * 2 ^ (place + 1) := by
            rw [zpow_add_one₀ (by norm_num)]
            ring
        _ ≤ 2 ^ 52 * 2 ^ x.scale :=
            mul_le_mul_of_nonneg_left (zpow_le_zpow_right₀ (by norm_num) coarser) (by positivity)
        _ ≤ x.significand * 2 ^ x.scale := mul_le_mul_of_nonneg_right full (by positivity)
    exact absurd less (not_lt.2 beyond)

omit finite nonzero in
lemma not_holds_ten_pow_sixteen (less : x.abs < 10 ^ (16 : ℤ)) :
    ¬x.roundingInterval.Holds (10 ^ (16 : ℤ)) :=
  not_holds_of_abs_lt 1 5000000000000000 (by decide) (by decide) (by norm_num) less

omit finite nonzero in
lemma not_holds_ten_pow_neg_four (less : x.abs < 10 ^ (-4 : ℤ)) :
    ¬x.roundingInterval.Holds (10 ^ (-4 : ℤ)) :=
  not_holds_of_abs_lt (-66) 7378697629483821 (by decide) (by decide) (by norm_num) less

end Binary64

end QueryDialect.Number
