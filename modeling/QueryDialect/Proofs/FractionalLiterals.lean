import QueryDialect.Proofs.ShortestDecimals

/-!
# Fractions in literals

The literal of a finite number shows a fraction unless it has an exponent and one digit in front of
it. That is so for the numbers other than zero below `10 ^ (-4)` and from `10 ^ 16` on to which some
decimal of one digit rounds.
-/
namespace QueryDialect

open Number

namespace Number

variable {x : Binary64}

/-- The range of the positional literals, which is given by the place of the leading digit, is the
range between the two powers of ten. -/
lemma isPositional_shortest_iff (finite : x.isFinite = true) (nonzero : x.isZero = false) :
    Value.literalFloat.isPositional x.roundingInterval.shortest = true ↔
      10 ^ (-4 : ℤ) ≤ x.abs ∧ x.abs < 10 ^ (16 : ℤ) := by
  have positive := Binary64.coefficient_pos finite nonzero
  have least := Binary64.pow_le_shortest_iff finite nonzero Binary64.not_holds_ten_pow_neg_four
  have beyond := Binary64.pow_le_shortest_iff finite nonzero Binary64.not_holds_ten_pow_sixteen
  rw [Decimal.pow_le_toRat_iff positive] at least beyond
  have range : Value.literalFloat.isPositional x.roundingInterval.shortest =
      (decide (-4 ≤ x.roundingInterval.shortest.leading) &&
        decide (x.roundingInterval.shortest.leading ≤ 15)) := rfl
  rw [range, Bool.and_eq_true, decide_eq_true_eq, decide_eq_true_eq, least,
    lt_iff_not_ge, ← beyond]
  exact and_congr_right fun _ => by omega

lemma showsFraction_magnitude_iff (finite : x.isFinite = true) :
    ShowsFraction (Value.literalFloat.magnitude x) ↔ x.isZero = true ∨
      (10 ^ (-4 : ℤ) ≤ x.abs ∧ x.abs < 10 ^ (16 : ℤ)) ∨
      ∀ digit : ℕ, digit < 10 → ∀ power : ℤ, ¬x.roundingInterval.Holds (digit * 10 ^ power) := by
  cases zero : x.isZero with
  | true =>
    rw [FloatStyle.magnitude_of_isZero _ zero]
    exact iff_of_true (Decimal.showsFraction_positional _) (.inl rfl)
  | false =>
    have positional := isPositional_shortest_iff finite zero
    have single := Binary64.coefficient_lt_ten_iff finite zero
    rw [FloatStyle.magnitude_of_nonzero _ zero]
    split_ifs with range
    · exact iff_of_true (Decimal.showsFraction_positional _) (.inr (.inl (positional.1 range)))
    · rw [Decimal.showsFraction_scientific_iff, ← not_lt, single, ← positional]
      simp [range]

/-- A literal without a fraction is one digit and a power of ten. -/
lemma magnitude_eq_of_not_showsFraction (finite : x.isFinite = true)
    (hidden : ¬ShowsFraction (Value.literalFloat.magnitude x)) : ∃ (digit : ℕ) (power : ℤ),
      digit < 10 ∧ x.roundingInterval.Holds (digit * 10 ^ power) ∧
      Value.literalFloat.magnitude x = digit.digitChar :: 'e' :: (toString power).toList := by
  cases zero : x.isZero with
  | true =>
    rw [FloatStyle.magnitude_of_isZero _ zero] at hidden
    exact absurd (Decimal.showsFraction_positional _) hidden
  | false =>
    have taken := (Binary64.shortest_spec finite zero).1
    rw [FloatStyle.magnitude_of_nonzero _ zero] at hidden ⊢
    split_ifs at hidden ⊢ with range
    · exact absurd (Decimal.showsFraction_positional _) hidden
    · rw [Decimal.showsFraction_scientific_iff, not_le] at hidden
      generalize x.roundingInterval.shortest = d at *
      refine ⟨d.coefficient, d.exponent, hidden, taken, ?_⟩
      have digits : d.digits = [d.coefficient.digitChar] := Nat.toDigits_of_lt_base hidden
      have leading : d.leading = d.exponent := by
        rw [Decimal.leading, digits, List.length_singleton]
        omega
      rw [Decimal.scientific, leading, digits]
      rfl

end Number

namespace Value

/-- The literal of a floating-point number shows a fraction just when the number is finite and
either a zero, or in the positional range, or such that no decimal of one digit rounds to it. Of the
other finite numbers the literal shows the sign, one digit and a power of ten. -/
theorem float_literal_shows_fraction_iff (x : Binary64) :
    (ShowsFraction (float x).literal.toList ↔ x.isFinite = true ∧ (x.isZero = true ∨
      (10 ^ (-4 : ℤ) ≤ x.abs ∧ x.abs < 10 ^ (16 : ℤ)) ∨
      ∀ digit : ℕ, digit < 10 → ∀ power : ℤ, ¬x.roundingInterval.Holds (digit * 10 ^ power))) ∧
    (x.isFinite = true → ¬ShowsFraction (float x).literal.toList → ∃ (digit : ℕ) (power : ℤ),
      digit < 10 ∧ x.roundingInterval.Holds (digit * 10 ^ power) ∧
      (float x).literal.toList = (if x.isNegative then ['-'] else []) ++
        digit.digitChar :: 'e' :: (toString power).toList) := by
  have printed : (float x).literal = literalFloat.print x := rfl
  rw [printed]
  cases finite : x.isFinite with
  | false =>
    refine ⟨iff_of_false (fun shown => ?_) nofun, nofun⟩
    have point := shown.point_mem
    rcases literalFloat.print_of_not_isFinite finite with text | text | text
    all_goals rw [text] at point; exact absurd point (by decide)
  | true =>
    have sign : '.' ∉ if x.isNegative then ['-'] else [] := by split_ifs <;> decide
    rw [literalFloat.toList_print_of_isFinite finite, showsFraction_append_iff sign]
    refine ⟨(showsFraction_magnitude_iff finite).trans (and_iff_right rfl).symm, fun _ hidden => ?_⟩
    obtain ⟨digit, power, single, held, text⟩ := magnitude_eq_of_not_showsFraction finite hidden
    exact ⟨digit, power, single, held, by rw [text]⟩

/-- Above the positional range one number shows a fraction and two others do not. -/
theorem float_literal_shows_fraction_iff_above :
    let split : Binary64 := ⟨0x434AA535D3D0C000⟩
    let whole : Binary64 := ⟨0xC341C37937E08000⟩
    split.abs = 15 * 10 ^ 15 ∧ (float split).literal = "1.5e16" ∧
      (∀ digit : ℕ, digit < 10 → ∀ power : ℤ,
        ¬split.roundingInterval.Holds (digit * 10 ^ power)) ∧
      (float whole).literal = "-1e16" ∧ ∃ (digit : ℕ) (power : ℤ), digit < 10 ∧
        whole.roundingInterval.Holds (digit * 10 ^ power) ∧ "-1e16".toList =
          ['-'] ++ digit.digitChar :: 'e' :: (toString power).toList := by
  intro split whole
  have large : split.abs = 15 * 10 ^ 15 := by
    have significand : split.significand = 7500000000000000 := by decide
    have scale : split.scale = 1 := by decide
    rw [Binary64.abs, significand, scale]
    norm_num
  have shown : (float split).literal = "1.5e16" := by decide +kernel
  have hidden : (float whole).literal = "-1e16" := by decide +kernel
  refine ⟨large, shown, ?_, hidden, ?_⟩
  · have fraction : ShowsFraction (float split).literal.toList :=
      ⟨['1'], '5', ['e', '1', '6'], by rw [shown]; decide, by decide⟩
    obtain ⟨-, zero | small | unmet⟩ := (float_literal_shows_fraction_iff split).1.1 fraction
    · exact absurd zero (by decide)
    · rw [large] at small
      norm_num at small
    · exact unmet
  · have nothing : ¬ShowsFraction (float whole).literal.toList := by
      rw [hidden]
      exact fun fraction => absurd fraction.point_mem (by decide)
    obtain ⟨digit, power, single, held, text⟩ :=
      (float_literal_shows_fraction_iff whole).2 (by decide) nothing
    rw [hidden] at text
    exact ⟨digit, power, single, held, text⟩

/-- The literals of `10 ^ 16` and of the least positive number show no fraction. -/
theorem float_literal_hides_fraction :
    let power : Binary64 := ⟨0x4341C37937E08000⟩
    let least : Binary64 := ⟨1⟩
    power.isFinite = true ∧ power.abs = 10 ^ 16 ∧ (float power).literal = "1e16" ∧
      ¬ShowsFraction (float power).literal.toList ∧
      least.isFinite = true ∧ least.abs = 2 ^ (-1074 : ℤ) ∧ (float least).literal = "5e-324" ∧
      ¬ShowsFraction (float least).literal.toList := by
  intro power least
  have large : power.abs = 10 ^ 16 := by
    have significand : power.significand = 5000000000000000 := by decide
    have scale : power.scale = 1 := by decide
    rw [Binary64.abs, significand, scale]
    norm_num
  have small : least.abs = 2 ^ (-1074 : ℤ) := by
    have significand : least.significand = 1 := by decide
    have scale : least.scale = -1074 := by decide
    rw [Binary64.abs, significand, scale, Nat.cast_one, one_mul]
  have text : (float power).literal = "1e16" := by decide +kernel
  have text' : (float least).literal = "5e-324" := by decide +kernel
  refine ⟨by decide, large, text, ?_, by decide, small, text', ?_⟩
  · rw [text]
    exact fun fraction => absurd fraction.point_mem (by decide)
  · rw [text']
    exact fun fraction => absurd fraction.point_mem (by decide)

end Value

end QueryDialect
