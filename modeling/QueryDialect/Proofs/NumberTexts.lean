import Mathlib.Algebra.Group.Nat.Defs
import Mathlib.Tactic.Common
import QueryDialect.Value

/-!
# Characters of number texts

A whole number is written with digits and a sign. A finite floating-point number has a point or an
exponent besides, and the others are written as words. A fraction is shown where a digit stands
behind a point.
-/
namespace QueryDialect.Number

/-- The characters of whole numbers in decimal. -/
def isWholeChar (c : Char) : Bool := c.isDigit || c == '-'

lemma isWholeChar_iff {c : Char} : isWholeChar c = true ↔ c.isDigit = true ∨ c = '-' := by
  rw [isWholeChar, Bool.or_eq_true, beq_iff_eq]

/-- A point with a digit behind it. -/
def ShowsFraction (text : List Char) : Prop :=
  ∃ whole digit rest, text = whole ++ '.' :: digit :: rest ∧ digit.isDigit = true

lemma isWholeChar_of_mem_toString {n : Int} {c : Char} (h : c ∈ (toString n).toList) :
    isWholeChar c = true := by
  have digit {m : Nat} (mem : c ∈ m.repr.toList) : c.isDigit = true := by
    rw [Nat.toList_repr] at mem
    exact Nat.isDigit_of_mem_toDigits (by decide) (by decide) mem
  rw [isWholeChar_iff]
  cases n with
  | ofNat m => exact .inl (digit h)
  | negSucc m =>
    have signed : (toString (Int.negSucc m)).toList = '-' :: (m + 1).repr.toList := by
      change ("-" ++ (m + 1).repr).toList = _
      rw [String.toList_append]
      rfl
    rw [signed, List.mem_cons] at h
    exact h.elim .inr fun mem => .inl (digit mem)

lemma point_not_mem_toString (n : Int) : '.' ∉ (toString n).toList :=
  fun mem => absurd (isWholeChar_of_mem_toString mem) (by decide)

lemma ShowsFraction.point_mem {text : List Char} (h : ShowsFraction text) : '.' ∈ text := by
  obtain ⟨whole, digit, rest, rfl, -⟩ := h
  simp

/-- What stands in front of a text has no part in its fraction if there is no point in it. -/
lemma showsFraction_append_iff {front : List Char} (pointless : '.' ∉ front) (text : List Char) :
    ShowsFraction (front ++ text) ↔ ShowsFraction text := by
  constructor
  · rintro ⟨whole, digit, rest, same, decimal⟩
    rcases List.append_eq_append_iff.1 same with ⟨more, rfl, shown⟩ | ⟨more, rfl, shown⟩
    · exact ⟨more, digit, rest, shown, decimal⟩
    · cases more with
      | nil => exact ⟨[], digit, rest, shown.symm, decimal⟩
      | cons c more =>
        obtain ⟨rfl, -⟩ := List.cons.inj shown
        exact absurd (List.mem_append_right _ List.mem_cons_self) pointless
  · rintro ⟨whole, digit, rest, rfl, decimal⟩
    exact ⟨front ++ whole, digit, rest, (List.append_assoc ..).symm, decimal⟩

namespace Decimal

variable (d : Decimal)

lemma isDigit_of_mem_digits {c : Char} (h : c ∈ d.digits) : c.isDigit = true :=
  Nat.isDigit_of_mem_toDigits (by decide) (by decide) h

lemma length_digits_pos : 0 < d.digits.length := Nat.length_toDigits_pos

lemma length_digits_le_iff (count : Nat) (positive : 0 < count) :
    d.digits.length ≤ count ↔ d.coefficient < 10 ^ count :=
  Nat.length_toDigits_le_iff (by decide) positive

/-- Digits behind a point show a fraction, if there are any. -/
lemma showsFraction_of_digits {digits : List Char} (all : ∀ c ∈ digits, c.isDigit = true)
    (nonempty : digits ≠ []) (whole rest : List Char) :
    ShowsFraction (whole ++ '.' :: (digits ++ rest)) := by
  obtain ⟨digit, more, rfl⟩ := List.exists_cons_of_ne_nil nonempty
  exact ⟨whole, digit, more ++ rest, rfl, all digit List.mem_cons_self⟩

/-- A positional text shows a fraction, if whole numbers are marked. -/
lemma showsFraction_positional : ShowsFraction (d.positional true) := by
  have some_digit := d.length_digits_pos
  unfold positional
  split_ifs with small whole marked
  · have zeros : ∀ c ∈ List.replicate (-d.leading - 1).toNat '0' ++ d.digits, c.isDigit = true := by
      intro c mem
      rcases List.mem_append.1 mem with zero | digit
      · rw [List.eq_of_mem_replicate zero]
        rfl
      · exact d.isDigit_of_mem_digits digit
    have nonempty : List.replicate (-d.leading - 1).toNat '0' ++ d.digits ≠ [] := by
      simp [List.length_pos_iff.1 some_digit]
    simpa using showsFraction_of_digits zeros nonempty ['0'] []
  · exact ⟨_, '0', [], rfl, rfl⟩
  · exact absurd rfl marked
  · have behind : d.digits.drop (d.digits.length - (-d.exponent).toNat) ≠ [] := by
      intro nothing
      have := List.drop_eq_nil_iff.1 nothing
      omega
    have all : ∀ c ∈ d.digits.drop (d.digits.length - (-d.exponent).toNat), c.isDigit = true :=
      fun c mem => d.isDigit_of_mem_digits (List.mem_of_mem_drop mem)
    have shown := showsFraction_of_digits all behind
      (d.digits.take (d.digits.length - (-d.exponent).toNat)) []
    rwa [List.append_nil] at shown

/-- With one digit there is nothing to show behind a point. -/
lemma showsFraction_scientific_iff : ShowsFraction d.scientific ↔ 10 ≤ d.coefficient := by
  have one := d.length_digits_le_iff 1 (by decide)
  rw [Nat.pow_one] at one
  unfold scientific
  split_ifs with single
  · refine iff_of_false (fun shown => ?_) (by omega)
    have mem := shown.point_mem
    simp only [List.append_nil, List.mem_append, List.mem_cons] at mem
    rcases mem with digit | exponent | power
    · exact absurd (d.isDigit_of_mem_digits (List.mem_of_mem_take digit)) (by decide)
    · exact absurd exponent (by decide)
    · exact point_not_mem_toString _ power
  · refine iff_of_true ?_ (by omega)
    have behind : d.digits.drop 1 ≠ [] := by
      rw [ne_eq, List.drop_eq_nil_iff]
      exact single
    have all : ∀ c ∈ d.digits.drop 1, c.isDigit = true :=
      fun c mem => d.isDigit_of_mem_digits (List.mem_of_mem_drop mem)
    rw [List.append_assoc, List.cons_append]
    exact showsFraction_of_digits all behind _ _

lemma mem_positional {marked : Bool} {c : Char} (h : c ∈ d.positional marked) :
    isWholeChar c = true ∨ c = '.' := by
  have digit (mem : c ∈ d.digits) : isWholeChar c = true :=
    isWholeChar_iff.2 (.inl (d.isDigit_of_mem_digits mem))
  have zero {count : Nat} (mem : c ∈ List.replicate count '0') : isWholeChar c = true := by
    rw [List.eq_of_mem_replicate mem]
    rfl
  unfold positional at h
  split_ifs at h with small whole marked
  · simp only [List.mem_append, List.mem_cons, List.not_mem_nil, or_false] at h
    rcases h with ((rfl | point) | mem) | mem
    · exact .inl (by decide)
    · exact .inr point
    · exact .inl (zero mem)
    · exact .inl (digit mem)
  · simp only [List.mem_append, List.mem_cons, List.not_mem_nil, or_false] at h
    rcases h with (mem | mem) | point | rfl
    · exact .inl (digit mem)
    · exact .inl (zero mem)
    · exact .inr point
    · exact .inl (by decide)
  · simp only [List.mem_append, List.not_mem_nil, or_false] at h
    exact .inl (h.elim digit zero)
  · simp only [List.mem_append, List.mem_cons] at h
    rcases h with mem | point | mem
    · exact .inl (digit (List.mem_of_mem_take mem))
    · exact .inr point
    · exact .inl (digit (List.mem_of_mem_drop mem))

lemma mem_scientific {c : Char} (h : c ∈ d.scientific) :
    isWholeChar c = true ∨ c = '.' ∨ c = 'e' := by
  have digit (mem : c ∈ d.digits) : isWholeChar c = true :=
    isWholeChar_iff.2 (.inl (d.isDigit_of_mem_digits mem))
  unfold scientific at h
  simp only [List.mem_append, List.mem_cons] at h
  rcases h with (mem | mem) | rfl | mem
  · exact .inl (digit (List.mem_of_mem_take mem))
  · split_ifs at mem
    · cases mem
    · exact (List.mem_cons.1 mem).elim (.inr ∘ .inl) fun mem =>
        .inl (digit (List.mem_of_mem_drop mem))
  · exact .inr (.inr rfl)
  · exact .inl (isWholeChar_of_mem_toString mem)

lemma exponent_mem_scientific : 'e' ∈ d.scientific := by
  simp [scientific]

end Decimal

namespace Binary64

/-- A number that is not finite is a NaN or infinite, and no number is both. -/
lemma isFinite_eq (x : Binary64) : x.isFinite = (!x.isNaN && !x.isInfinite) := by
  cases exponent : x.exponentBits == 2047 <;> cases fraction : x.fraction == 0 <;>
    simp [isFinite, isNaN, isInfinite, bne, exponent, fraction]

end Binary64

namespace FloatStyle

variable (style : FloatStyle) {x : Binary64}

lemma magnitude_of_isZero (h : x.isZero = true) :
    style.magnitude x = Decimal.positional style.wholeMarked ⟨0, 0⟩ := if_pos h

lemma magnitude_of_nonzero (h : x.isZero = false) : style.magnitude x =
    if style.isPositional x.roundingInterval.shortest then
      x.roundingInterval.shortest.positional style.wholeMarked
    else x.roundingInterval.shortest.scientific := if_neg (by simp [h])

/-- The characters of a finite number, where whole numbers are marked. One of them is in no whole
number. -/
lemma mem_magnitude (h : style.wholeMarked = true) :
    (∀ c ∈ style.magnitude x, isWholeChar c = true ∨ c = '.' ∨ c = 'e') ∧
      ('.' ∈ style.magnitude x ∨ 'e' ∈ style.magnitude x) := by
  have positional (d : Decimal) : (∀ c ∈ d.positional style.wholeMarked,
      isWholeChar c = true ∨ c = '.' ∨ c = 'e') ∧ ('.' ∈ d.positional style.wholeMarked ∨
        'e' ∈ d.positional style.wholeMarked) := by
    rw [h]
    exact ⟨fun c mem => (d.mem_positional mem).imp_right .inl,
      .inl d.showsFraction_positional.point_mem⟩
  cases zero : x.isZero with
  | true =>
    rw [magnitude_of_isZero style zero]
    exact positional ⟨0, 0⟩
  | false =>
    rw [magnitude_of_nonzero style zero]
    generalize x.roundingInterval.shortest = d
    split_ifs
    · exact positional d
    · exact ⟨fun c => d.mem_scientific, .inr d.exponent_mem_scientific⟩

lemma toList_print_of_isFinite (h : x.isFinite = true) : (style.print x).toList =
    (if x.isNegative then ['-'] else []) ++ style.magnitude x := by
  rw [Binary64.isFinite_eq, Bool.and_eq_true, Bool.not_eq_true', Bool.not_eq_true'] at h
  rw [print, h.1, h.2]
  exact String.toList_ofList

/-- The texts of the numbers that are not finite. -/
lemma print_of_not_isFinite (h : x.isFinite = false) :
    style.print x = "NaN" ∨ style.print x = "inf" ∨ style.print x = "-inf" := by
  rw [Binary64.isFinite_eq, Bool.and_eq_false_iff, Bool.not_eq_false', Bool.not_eq_false'] at h
  cases nan : x.isNaN with
  | true => exact .inl (by rw [print, nan]; rfl)
  | false =>
    have infinite : x.isInfinite = true := h.resolve_left (by simp [nan])
    right
    rw [print, nan, infinite]
    cases x.isNegative with
    | true => exact .inr rfl
    | false => exact .inl rfl

end FloatStyle

end QueryDialect.Number
