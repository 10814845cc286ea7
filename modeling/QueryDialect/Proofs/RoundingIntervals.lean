import Mathlib.Algebra.Order.Field.Power
import Mathlib.Data.Rat.Cast.Order
import Mathlib.Data.Rat.Floor
import Mathlib.Tactic.Linarith
import Mathlib.Tactic.NormNum
import Mathlib.Tactic.Positivity
import Mathlib.Tactic.Ring
import QueryDialect.Number.Shortest

/-!
# Decimals that round to a number

The magnitude of a finite number and the reals that round to it are taken as rational numbers. The
decimal chosen for a number other than zero rounds to it, and so does no decimal of a greater power
of ten.
-/
namespace QueryDialect.Number

/-- The number that the decimal stands for. -/
def Decimal.toRat (d : Decimal) : ℚ := d.coefficient * 10 ^ d.exponent

namespace RoundingInterval

/-- Whether a number lies in the interval. -/
def Holds (i : RoundingInterval) (q : ℚ) : Prop :=
  if i.closed then i.low * 2 ^ i.unit ≤ q ∧ q ≤ i.high * 2 ^ i.unit
  else i.low * 2 ^ i.unit < q ∧ q < i.high * 2 ^ i.unit

/-- The interval lies above zero and around its center. -/
structure Proper (i : RoundingInterval) : Prop where
  low_pos : 0 < i.low
  low_lt : i.low < i.center
  lt_high : i.center < i.high

variable {i : RoundingInterval} {p q r : ℚ}

lemma Holds.low_le (h : i.Holds q) : i.low * 2 ^ i.unit ≤ q := by
  unfold Holds at h
  split_ifs at h
  · exact h.1
  · exact h.1.le

lemma Holds.le_high (h : i.Holds q) : q ≤ i.high * 2 ^ i.unit := by
  unfold Holds at h
  split_ifs at h
  · exact h.2
  · exact h.2.le

lemma Holds.between (hp : i.Holds p) (hr : i.Holds r) (hpq : p ≤ q) (hqr : q ≤ r) : i.Holds q := by
  unfold Holds at *
  split_ifs at * with closed
  · exact ⟨hp.1.trans hpq, hqr.trans hr.2⟩
  · exact ⟨hp.1.trans_le hpq, hqr.trans_lt hr.2⟩

lemma holds_of_lt (low : i.low * 2 ^ i.unit < q) (high : q < i.high * 2 ^ i.unit) : i.Holds q := by
  unfold Holds
  split_ifs
  · exact ⟨low.le, high.le⟩
  · exact ⟨low, high⟩

lemma Proper.holds_center (h : i.Proper) : i.Holds (i.center * 2 ^ i.unit) := by
  have unit : (0 : ℚ) < 2 ^ i.unit := by positivity
  exact holds_of_lt (mul_lt_mul_of_pos_right (by exact_mod_cast h.low_lt) unit)
    (mul_lt_mul_of_pos_right (by exact_mod_cast h.lt_high) unit)

lemma Proper.pos_of_holds (h : i.Proper) (hq : i.Holds q) : 0 < q := by
  have low : (0 : ℚ) < i.low := by exact_mod_cast h.low_pos
  exact lt_of_lt_of_le (by positivity) hq.low_le

/-- A grid that is finer than the unit of the interval has a point in it. -/
lemma Proper.exists_holds (h : i.Proper) {exponent : ℤ} (fine : (10 : ℚ) ^ exponent < 2 ^ i.unit) :
    ∃ n : ℕ, i.Holds (n * 10 ^ exponent) := by
  have grid : (0 : ℚ) < 10 ^ exponent := by positivity
  have unit : (0 : ℚ) < 2 ^ i.unit := by positivity
  have center : (0 : ℚ) ≤ i.center * 2 ^ i.unit / 10 ^ exponent := by positivity
  have below := (le_div_iff₀ grid).1 (Nat.floor_le center)
  have above := (div_lt_iff₀ grid).1
    (Nat.lt_floor_add_one (i.center * 2 ^ i.unit / (10 : ℚ) ^ exponent))
  refine ⟨⌊i.center * 2 ^ i.unit / (10 : ℚ) ^ exponent⌋₊, holds_of_lt ?_ (below.trans_lt ?_)⟩
  · have low : (i.low : ℚ) + 1 ≤ i.center := by exact_mod_cast h.low_lt
    have distance := mul_le_mul_of_nonneg_right low unit.le
    linarith
  · exact mul_lt_mul_of_pos_right (by exact_mod_cast h.lt_high) unit

lemma zpow_mul_pow_toNat_neg {b : ℚ} (positive : 0 < b) (z : ℤ) :
    b ^ z * b ^ (-z).toNat = b ^ z.toNat := by
  rw [← zpow_natCast, ← zpow_natCast, ← zpow_add₀ positive.ne']
  congr 1
  omega

section Scaled

variable {exponent : ℤ} {m n : ℕ}

/-- What both ends and the points of a grid are scaled by. -/
def weight (i : RoundingInterval) (exponent : ℤ) : ℚ :=
  2 ^ (-i.unit).toNat * 10 ^ (-exponent).toNat

lemma weight_pos : 0 < i.weight exponent := by
  unfold weight
  positivity

/-- The factor of a bound in the scaled interval. -/
def factor (i : RoundingInterval) (exponent : ℤ) : ℕ :=
  Nat.pow 2 i.unit.toNat * Nat.pow 10 (-exponent).toNat

lemma cast_mul_factor :
    ((m * i.factor exponent : ℕ) : ℚ) = m * 2 ^ i.unit * i.weight exponent := by
  have two := zpow_mul_pow_toNat_neg (b := 2) (by norm_num) i.unit
  simp only [factor, weight, Nat.pow_eq]
  push_cast
  rw [← two]
  ring

lemma cast_mul_step :
    ((n * (i.scaled exponent).step : ℕ) : ℚ) = n * 10 ^ exponent * i.weight exponent := by
  have ten := zpow_mul_pow_toNat_neg (b := 10) (by norm_num) exponent
  simp only [scaled, weight, Nat.pow_eq]
  push_cast
  rw [← ten]
  ring

lemma factor_le_step_iff : m * i.factor exponent ≤ n * (i.scaled exponent).step ↔
    (m : ℚ) * 2 ^ i.unit ≤ n * 10 ^ exponent := by
  rw [← Nat.cast_le (α := ℚ), cast_mul_factor, cast_mul_step, mul_le_mul_iff_left₀ weight_pos]

lemma step_le_factor_iff : n * (i.scaled exponent).step ≤ m * i.factor exponent ↔
    n * 10 ^ exponent ≤ (m : ℚ) * 2 ^ i.unit := by
  rw [← Nat.cast_le (α := ℚ), cast_mul_factor, cast_mul_step, mul_le_mul_iff_left₀ weight_pos]

lemma contains_iff : (i.scaled exponent).contains n = true ↔ i.Holds (n * 10 ^ exponent) := by
  have ends : (i.scaled exponent).contains n = if i.closed then
      decide (i.low * i.factor exponent ≤ n * (i.scaled exponent).step) &&
        decide (n * (i.scaled exponent).step ≤ i.high * i.factor exponent)
    else decide (i.low * i.factor exponent < n * (i.scaled exponent).step) &&
      decide (n * (i.scaled exponent).step < i.high * i.factor exponent) := rfl
  rw [ends, Holds]
  split_ifs
  · simp only [Bool.and_eq_true, decide_eq_true_eq, factor_le_step_iff, step_le_factor_iff]
  · simp only [Bool.and_eq_true, decide_eq_true_eq, ← not_le, factor_le_step_iff,
      step_le_factor_iff]

/-- If any point of a grid is in the interval, then so is one next to the center. -/
lemma Proper.contains_next (h : i.Proper) (held : i.Holds (n * 10 ^ exponent)) :
    (i.scaled exponent).contains ((i.scaled exponent).center / (i.scaled exponent).step) = true ∨
      (i.scaled exponent).contains
        ((i.scaled exponent).center / (i.scaled exponent).step + 1) = true := by
  have ten : (0 : ℚ) < 10 ^ exponent := by positivity
  have step_pos : 0 < (i.scaled exponent).step :=
    Nat.mul_pos (Nat.pow_pos (by decide)) (Nat.pow_pos (by decide))
  have center : (i.scaled exponent).center = i.center * i.factor exponent := rfl
  rw [contains_iff, contains_iff]
  rcases Nat.lt_or_ge ((i.scaled exponent).center / (i.scaled exponent).step) n with above | below
  · right
    refine h.holds_center.between held ?_ (mul_le_mul_of_nonneg_right ?_ ten.le)
    · rw [← factor_le_step_iff, ← center]
      exact (Nat.lt_mul_of_div_lt (Nat.lt_succ_self _) step_pos).le
    · exact_mod_cast above
  · left
    refine held.between h.holds_center (mul_le_mul_of_nonneg_right ?_ ten.le) ?_
    · exact_mod_cast below
    · rw [← step_le_factor_iff, ← center]
      exact Nat.div_mul_le_self _ _

lemma contains_of_nearest? {s : Scaled} (h : s.nearest? = some n) : s.contains n = true := by
  unfold Scaled.nearest? at h
  simp only at h
  split at h
  · next left right =>
    split_ifs at h
    · rw [← Option.some.inj h, left]
    · rw [← Option.some.inj h, right]
  · next left right => rw [← Option.some.inj h, left]
  · next left right => rw [← Option.some.inj h, right]
  · cases h

lemma nearest?_ne_none {s : Scaled}
    (h : s.contains (s.center / s.step) = true ∨ s.contains (s.center / s.step + 1) = true) :
    s.nearest? ≠ none := by
  intro nothing
  unfold Scaled.nearest? at nothing
  simp only at nothing
  split at nothing
  · cases nothing
  · cases nothing
  · cases nothing
  · next left right =>
    rw [left, right] at h
    exact h.elim nofun nofun

lemma holds_of_nearest? {d : Decimal} (h : i.nearest? exponent = some d) :
    d.exponent = exponent ∧ i.Holds d.toRat := by
  obtain ⟨n, found, rfl⟩ := Option.map_eq_some_iff.1 h
  exact ⟨rfl, contains_iff.1 (contains_of_nearest? found)⟩

lemma Proper.exists_nearest? (h : i.Proper) (held : i.Holds (n * 10 ^ exponent)) :
    ∃ d, i.nearest? exponent = some d := by
  have found := nearest?_ne_none (h.contains_next held)
  obtain ⟨m, hm⟩ := Option.ne_none_iff_exists'.1 found
  exact ⟨⟨m, exponent⟩, by rw [nearest?, hm, Option.map_some]⟩

end Scaled

lemma exists_of_findSome?_range {α : Type} {f : ℕ → Option α} {a : α} {count : ℕ}
    (h : (List.range count).findSome? f = some a) : ∃ k, f k = some a ∧ ∀ j < k, f j = none := by
  induction count with
  | zero => cases h
  | succ count ih =>
    rw [List.range_succ, List.findSome?_append] at h
    cases first : (List.range count).findSome? f with
    | some b =>
      rw [first, Option.some_or] at h
      exact ih (first.trans h)
    | none =>
      rw [first, Option.none_or, List.findSome?_singleton] at h
      exact ⟨count, h, fun j less => List.findSome?_eq_none_iff.1 first j (List.mem_range.2 less)⟩

/-- The decimal taken lies in the interval, and no coarser grid within the range has a point
there. -/
lemma Proper.shortest_spec (h : i.Proper) {n : ℕ} {exponent : ℤ}
    (held : i.Holds (n * 10 ^ exponent)) (finest : coarsest - gridCount < exponent)
    (greatest : exponent ≤ coarsest) :
    i.Holds i.shortest.toRat ∧ ∀ (m : ℕ) (other : ℤ), other ≤ coarsest →
      i.Holds (m * 10 ^ other) → other ≤ i.shortest.exponent := by
  have index {e : ℤ} (range : e ≤ coarsest) : coarsest - ((coarsest - e).toNat : ℤ) = e := by omega
  have met : ((List.range gridCount).findSome? fun k : ℕ => i.nearest? (coarsest - k)).isSome := by
    obtain ⟨d, found⟩ := h.exists_nearest? held
    rw [List.findSome?_isSome_iff]
    refine ⟨(coarsest - exponent).toNat, List.mem_range.2 (by omega), ?_⟩
    rw [index greatest, found]
    rfl
  obtain ⟨d, first⟩ := Option.isSome_iff_exists.1 met
  have taken : i.shortest = d := by rw [shortest, first, Option.getD_some]
  obtain ⟨k, found, missed⟩ := exists_of_findSome?_range first
  obtain ⟨place, lies⟩ := holds_of_nearest? found
  rw [taken]
  refine ⟨lies, fun m other bound other_held => ?_⟩
  by_contra greater
  obtain ⟨d', found'⟩ := h.exists_nearest? other_held
  have skipped := missed (coarsest - other).toNat (by omega)
  rw [index bound, found'] at skipped
  cases skipped

end RoundingInterval

end QueryDialect.Number
