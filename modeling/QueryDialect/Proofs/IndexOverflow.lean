import QueryDialect.Proofs.TreeCompilation

/-!
# Index overflow

A placeholder whose number does not fit in a machine word is the only fault a pattern can have.
Since placeholders do not overlap, the first one at fault is told apart from the others by its
place, and compilation reports that one.
-/
namespace QueryDialect

open Text

namespace Pattern

/-- What can stand behind the digits of a placeholder. -/
def closings : List (List Char) := ['}'] :: modifierLetters.map fun x => [x.1, '}']

/-- A placeholder with these digits takes up this span of the pattern, and the number that the
digits denote does not fit in a machine word. -/
structure Overflows (pattern : String) (span : Span) (digits : List Char) : Prop where
  decimal_digits : ∀ d ∈ digits, '0' ≤ d ∧ d ≤ '9'
  two_pow_le : 2 ^ 64 ≤ decimal digits
  written : ∃ closing ∈ closings, span.Cuts pattern ('{' :: (digits ++ closing))

lemma mem_closings_iff {closing : List Char} :
    closing ∈ closings ↔ ∃ letter : Option Char,
      (∀ c ∈ letter, (Modifier.ofLetter? c).isSome) ∧ closing = letter.toList ++ ['}'] := by
  simp only [closings, List.mem_cons, List.mem_map]
  constructor
  · rintro (rfl | ⟨⟨c, modifier⟩, mem, rfl⟩)
    · exact ⟨none, by simp, rfl⟩
    · exact ⟨some c, by simp [ofLetter?_eq_some_iff.2 mem], rfl⟩
  · rintro ⟨letter, modified, rfl⟩
    cases letter with
    | none => exact .inl rfl
    | some c =>
      obtain ⟨modifier, found⟩ := Option.isSome_iff_exists.1 (modified c rfl)
      exact .inr ⟨(c, modifier), ofLetter?_eq_some_iff.1 found, rfl⟩

variable {pattern : String} {span : Span} {digits : List Char}

lemma overflows_iff : Overflows pattern span digits ↔ ∃ p : Placeholder,
    p.WellFormed ∧ p.digits = digits ∧ ¬(Piece.placeholder p).Fits ∧ span.Cuts pattern p.chars := by
  have large {p : Placeholder} : ¬(Piece.placeholder p).Fits ↔ 2 ^ 64 ≤ decimal p.digits := by
    rw [← ofDigitChars_eq_decimal]
    exact Nat.not_lt
  constructor
  · rintro ⟨decimal_digits, two_pow_le, closing, mem, cuts⟩
    obtain ⟨letter, modified, rfl⟩ := mem_closings_iff.1 mem
    refine ⟨⟨digits, letter⟩, ⟨?_, fun d h => isDigit_iff.2 (decimal_digits d h), modified⟩, rfl,
      large.2 two_pow_le, cuts⟩
    rintro rfl
    exact absurd two_pow_le (by decide)
  · rintro ⟨p, wellFormed, rfl, overflow, cuts⟩
    have closing := mem_closings_iff.2 ⟨p.letter, wellFormed.letter_modifier, rfl⟩
    exact ⟨fun d h => isDigit_iff.1 (wellFormed.digits_decimal d h), large.1 overflow, _, closing,
      cuts⟩

/-- Zeros in front of an index do not make it larger, and the modifier does not matter. -/
lemma overflows_spell_iff {s : Spelling} {index : Nat} {modifier : Modifier}
    (cuts : span.Cuts pattern (Placeholder.spell s index modifier).chars) :
    Overflows pattern span (Placeholder.spell s index modifier).digits ↔ 2 ^ 64 ≤ index := by
  have denoted : decimal (Placeholder.spell s index modifier).digits = index := by
    rw [← ofDigitChars_eq_decimal]
    exact Placeholder.index_spell s index modifier
  have wellFormed := Placeholder.wellFormed_spell s index modifier
  have closing := mem_closings_iff.2 ⟨_, wellFormed.letter_modifier, rfl⟩
  constructor
  · intro h
    exact denoted ▸ h.two_pow_le
  · intro h
    exact ⟨fun d mem => isDigit_iff.1 (wellFormed.digits_decimal d mem), denoted.symm ▸ h, _,
      closing, cuts⟩

end Pattern

namespace Template

open Pattern (Overflows overflows_iff)

variable {pattern : String}

lemma start_le_of_mem_locate {start : Nat} {xs : List Pattern.Piece} {x : Pattern.Piece × Span}
    (h : x ∈ locate start xs) : start ≤ x.2.start := by
  obtain ⟨left, -, -, same⟩ := mem_locate_iff.1 h
  rw [same]
  exact Nat.le_add_right _ _

/-- A piece begins where those before it have ended. -/
lemma pairwise_locate (start : Nat) (xs : List Pattern.Piece) :
    (locate start xs).Pairwise fun x y => x.2.stop ≤ y.2.start := by
  induction xs generalizing start with
  | nil => exact .nil
  | cons x xs ih => exact .cons (fun y hy => start_le_of_mem_locate hy) (ih _)

lemma element_eq_error_iff {x : Pattern.Piece × Span} {e : PatternError} :
    element pattern x = .error e ↔ ∃ p, x.1 = .placeholder p ∧ ¬x.1.Fits ∧
      e = ⟨pattern, x.2, .indexTooLarge (.ofList p.digits)⟩ := by
  obtain ⟨piece, span⟩ := x
  cases piece with
  | text content => simp [element]
  | placeholder p =>
    by_cases fits : p.index < indexLimit
    · simp [element, Pattern.Piece.Fits, fits]
    · simp [element, Pattern.Piece.Fits, fits, eq_comm]

/-- The error is that of the first piece at fault. -/
lemma mapM_element_eq_error {xs : List (Pattern.Piece × Span)} {e : PatternError}
    (h : xs.mapM (element pattern) = .error e) : ∃ before x after, xs = before ++ x :: after ∧
      (∀ y ∈ before, y.1.Fits) ∧ element pattern x = .error e := by
  induction xs with
  | nil => cases h
  | cons x xs ih =>
    rw [List.mapM_cons] at h
    cases hx : element pattern x with
    | error e' =>
      rw [hx] at h
      cases h
      exact ⟨[], x, xs, rfl, by simp, hx⟩
    | ok y =>
      obtain ⟨fits, -⟩ := element_eq_ok_iff.1 hx
      cases hxs : xs.mapM (element pattern) with
      | ok ys =>
        rw [hx, hxs] at h
        cases h
      | error e' =>
        rw [hx, hxs] at h
        cases h
        obtain ⟨before, z, after, rfl, first, hz⟩ := ih hxs
        exact ⟨x :: before, z, after, rfl, List.forall_mem_cons.2 ⟨fits, first⟩, hz⟩

lemma overflows_iff_mem_locate {span : Span} {digits : List Char} :
    Overflows pattern span digits ↔ ∃ p : Pattern.Placeholder, p.digits = digits ∧
      ¬(Pattern.Piece.placeholder p).Fits ∧
      (.placeholder p, span) ∈ locate 0 (Pattern.pieces pattern.toList) := by
  rw [overflows_iff]
  constructor
  · rintro ⟨p, wellFormed, same, overflow, cuts⟩
    exact ⟨p, same, overflow, placeholder_mem_locate_iff.2 ⟨wellFormed, cuts⟩⟩
  · rintro ⟨p, same, overflow, mem⟩
    obtain ⟨wellFormed, cuts⟩ := placeholder_mem_locate_iff.1 mem
    exact ⟨p, wellFormed, same, overflow, cuts⟩

/-- What is reported: the first placeholder at fault. All others begin behind it. -/
lemma first_of_compile_eq_error {e : PatternError} (h : compile pattern = .error e) :
    e.pattern = pattern ∧ ∃ digits, Overflows pattern e.span digits ∧
      (∀ span other, Overflows pattern span other → span = e.span ∨ e.span.stop ≤ span.start) ∧
      e.fault = .indexTooLarge (.ofList digits) := by
  have failed : (locate 0 (Pattern.pieces pattern.toList)).mapM (element pattern) = .error e := by
    cases elements : (locate 0 (Pattern.pieces pattern.toList)).mapM (element pattern) with
    | ok ys =>
      rw [compile, elements] at h
      cases h
    | error e' =>
      rw [compile, elements] at h
      cases h
      rfl
  obtain ⟨before, x, after, located, fits, hx⟩ := mapM_element_eq_error failed
  obtain ⟨p, placeholder, overflow, rfl⟩ := element_eq_error_iff.1 hx
  have mem : (.placeholder p, x.2) ∈ locate 0 (Pattern.pieces pattern.toList) := by
    rw [located, ← placeholder]
    exact List.mem_append_right _ List.mem_cons_self
  refine ⟨rfl, p.digits, overflows_iff_mem_locate.2 ⟨p, rfl, placeholder ▸ overflow, mem⟩, ?_, rfl⟩
  intro span other overflows
  obtain ⟨q, -, overflow', mem'⟩ := overflows_iff_mem_locate.1 overflows
  -- pieces before the one at fault fit, and pieces after it begin where it has ended
  rw [located, List.mem_append, List.mem_cons] at mem'
  have order := pairwise_locate 0 (Pattern.pieces pattern.toList)
  rw [located, List.pairwise_append, List.pairwise_cons] at order
  rcases mem' with earlier | same | later
  · exact absurd (fits _ earlier) overflow'
  · exact .inl (congrArg Prod.snd same)
  · exact .inr (order.2.1.1 _ later)

lemma exists_compile_eq_error_iff :
    (∃ e, compile pattern = .error e) ↔ ∃ span digits, Overflows pattern span digits := by
  constructor
  · rintro ⟨e, h⟩
    obtain ⟨-, digits, overflows, -⟩ := first_of_compile_eq_error h
    exact ⟨e.span, digits, overflows⟩
  · rintro ⟨span, digits, overflows⟩
    obtain ⟨p, -, overflow, mem⟩ := overflows_iff_mem_locate.1 overflows
    obtain ⟨left, right, pieces, -⟩ := mem_locate_iff.1 mem
    cases h : compile pattern with
    | error e => exact ⟨e, rfl⟩
    | ok t =>
      have fits := (compile_eq_ok_iff.1 h).1 (.placeholder p) (by simp [pieces])
      exact absurd fits overflow

/-- A pattern cannot be compiled if and only if a number in one of its placeholders does not fit in
a machine word; zeros in front of a number do not count. The error is about the first placeholder of
this kind, all of it, and quotes its digits.

Nothing else can be wrong with a pattern: the grammar reads every text to its end, in one way, and
compiling what it has read comes to the same. So the errors for a text that is not read and for a
placeholder without an index are never made. -/
theorem compile_fails_iff_overflows (pattern : String) :
    ((∃ e, compile pattern = .error e) ↔ ∃ span digits, Overflows pattern span digits) ∧
    (∀ e, compile pattern = .error e → e.pattern = pattern ∧
      ∃ digits, Overflows pattern e.span digits ∧
        (∀ span other, Overflows pattern span other → span = e.span ∨ e.span.stop ≤ span.start) ∧
        e.fault.describe = "invalid placeholder index " ++ String.ofList digits ++
          ": number too large to fit in target type") ∧
    (∀ span s index modifier, span.Cuts pattern (Pattern.Placeholder.spell s index modifier).chars →
      (Overflows pattern span (Pattern.Placeholder.spell s index modifier).digits ↔
        2 ^ 64 ≤ index)) ∧
    (∀ r, Pattern.Parsing.pattern.Reads pattern.toList r ↔
      r = some ([Pattern.tree pattern.toList], [])) ∧
    ∀ unread r, Pattern.Parsing.pattern.Reads pattern.toList r →
      compileRead pattern unread r = compile pattern := by
  refine ⟨exists_compile_eq_error_iff, fun e h => ?_, fun _ _ _ _ => Pattern.overflows_spell_iff,
    fun _ => Pattern.reads_pattern_iff, fun unread r reads => ?_⟩
  · obtain ⟨same, digits, overflows, first, fault⟩ := first_of_compile_eq_error h
    exact ⟨same, digits, overflows, first, by rw [fault]; rfl⟩
  · rw [Pattern.reads_pattern_iff.1 reads, compileRead_tree]

/-- A number that just fits comes first, after a character of two bytes. The number behind it is one
too many, and the last number is not reported. -/
theorem compile_fails_iff_overflows_second :
    let pattern := "é{00018446744073709551615}{018446744073709551616U}{99999999999999999999}"
    let e : PatternError := ⟨pattern, ⟨27, 51⟩, .indexTooLarge "018446744073709551616"⟩
    compile pattern = .error e ∧
      (∃ digits, Overflows pattern e.span digits ∧
        ∀ span other, Overflows pattern span other → span = e.span ∨ e.span.stop ≤ span.start) ∧
      ¬∃ digits, Overflows pattern ⟨2, 27⟩ digits := by
  intro pattern e
  have h : compile pattern = .error e := by decide +kernel
  obtain ⟨-, reported, -⟩ := compile_fails_iff_overflows pattern
  obtain ⟨-, digits, overflows, first, -⟩ := reported e h
  refine ⟨h, ⟨digits, overflows, first⟩, ?_⟩
  rintro ⟨other, overflows'⟩
  rcases first _ _ overflows' with same | behind
  · exact absurd same (by decide)
  · exact absurd behind (by decide)

end Template

end QueryDialect
