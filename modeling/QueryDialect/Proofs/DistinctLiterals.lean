import Std.Data.String.ToInt
import QueryDialect.Proofs.LiteralReading
import QueryDialect.Proofs.NumberTexts

/-!
# Literals of different constants

The variant of a constant is read off its literal: from the first character, and for numbers from
whether there is anything but digits and a sign. Within a variant the literal gives the constant
back, except that a floating-point literal stands for every NaN.
-/
namespace QueryDialect

namespace Value

open Number

inductive Variant where
  | null | bool | integer | float | string
  deriving DecidableEq, Repr

def variant : Value → Variant
  | null => .null
  | bool _ => .bool
  | integer _ => .integer
  | float _ => .float
  | string _ => .string

/-- The characters that begin a literal that is no number. -/
def openings : List Char := ['n', 't', 'f', '\'']

/-- Reads a variant off the text of a literal. -/
def variantOf : List Char → Variant
  | 'n' :: _ => .null
  | 't' :: _ | 'f' :: _ => .bool
  | '\'' :: _ => .string
  | text => if text.all isWholeChar then .integer else .float

lemma variantOf_number {text : List Char} (h : ∀ c ∈ text.head?, c ∉ openings) :
    variantOf text = if text.all isWholeChar then .integer else .float := by
  unfold variantOf
  split
  · exact absurd (h 'n' rfl) (by decide)
  · exact absurd (h 't' rfl) (by decide)
  · exact absurd (h 'f' rfl) (by decide)
  · exact absurd (h '\'' rfl) (by decide)
  · rfl

lemma isWholeChar_not_mem_openings {c : Char} (h : isWholeChar c = true) : c ∉ openings := by
  intro mem
  have none_whole : openings.all (!isWholeChar ·) = true := by decide
  have other := List.all_eq_true.1 none_whole c mem
  rw [h] at other
  cases other

lemma variantOf_integer (n : Int) : variantOf (toString n).toList = .integer := by
  have whole : ∀ c ∈ (toString n).toList, isWholeChar c = true :=
    fun c => isWholeChar_of_mem_toString
  rw [variantOf_number fun c head =>
    isWholeChar_not_mem_openings (whole c (List.mem_of_mem_head? head)),
    if_pos (List.all_eq_true.2 whole)]

lemma variantOf_float (x : Binary64) : variantOf (float x).literal.toList = .float := by
  change variantOf (literalFloat.print x).toList = .float
  cases finite : x.isFinite with
  | false =>
    rcases literalFloat.print_of_not_isFinite finite with text | text | text
    all_goals rw [text]; decide
  | true =>
    obtain ⟨chars, fractional⟩ := literalFloat.mem_magnitude (x := x) rfl
    have signed : ∀ c ∈ (if x.isNegative then ['-'] else []) ++ literalFloat.magnitude x,
        isWholeChar c = true ∨ c = '.' ∨ c = 'e' := by
      intro c mem
      rcases List.mem_append.1 mem with sign | mem
      · have minus : c = '-' := by
          split_ifs at sign
          · exact List.mem_singleton.1 sign
          · cases sign
        exact .inl (isWholeChar_iff.2 (.inr minus))
      · exact chars c mem
    rw [literalFloat.toList_print_of_isFinite finite, variantOf_number, if_neg]
    · intro all_whole
      have whole := List.all_eq_true.1 all_whole
      rcases fractional with point | exponent
      · exact absurd (whole '.' (List.mem_append_right _ point)) (by decide)
      · exact absurd (whole 'e' (List.mem_append_right _ exponent)) (by decide)
    · intro c head
      rcases signed c (List.mem_of_mem_head? head) with whole | rfl | rfl
      · exact isWholeChar_not_mem_openings whole
      · decide
      · decide

/-- The variant of a constant is read off its literal. -/
lemma variantOf_literal (v : Value) : variantOf v.literal.toList = v.variant := by
  cases v with
  | null => decide
  | bool b => cases b <;> decide
  | integer n => exact variantOf_integer n.toInt
  | float x => exact variantOf_float x
  | string s =>
    change variantOf (Text.literal s).toList = .string
    rw [Text.toList_literal]
    rfl

/-- Constants of one variant that is not the floating-point one have literals of their own. -/
lemma eq_of_literal_eq {v w : Value} (same : v.literal = w.literal)
    (alike : v.variant = w.variant) (other : v.variant ≠ .float) : v = w := by
  cases v with
  | null =>
    cases w with
    | null => rfl
    | bool | integer | float | string => cases alike
  | bool a =>
    cases w with
    | bool b => revert same; cases a <;> cases b <;> decide
    | null | integer | float | string => cases alike
  | integer m =>
    cases w with
    | integer n => exact congrArg integer (Int64.toInt_inj.1 (Int.repr_injective same))
    | null | bool | float | string => cases alike
  | float x => exact absurd rfl other
  | string s =>
    cases w with
    | string t => exact congrArg string (Text.literal_injective same)
    | null | bool | integer | float => cases alike

/-- Literals keep constants apart: one literal means one variant, and one constant unless that is a
floating-point number. So it is with the texts of inlined constants, wherever they stand. -/
theorem literals_keep_apart (v w : Value) :
    (v.literal = w.literal → v.variant = w.variant ∧ (v.variant ≠ .float → v = w)) ∧
    ∀ (r : Renderer) type type' p q, r.options.inlineConstants = true →
      (r.renderExpr (.constant type v) p).1 = (r.renderExpr (.constant type' w) q).1 →
      v.variant = w.variant ∧ (v.variant ≠ .float → v = w) := by
  have apart (same : v.literal = w.literal) :
      v.variant = w.variant ∧ (v.variant ≠ .float → v = w) := by
    have alike : v.variant = w.variant := by
      rw [← variantOf_literal v, ← variantOf_literal w, same]
    exact ⟨alike, eq_of_literal_eq same alike⟩
  refine ⟨apart, fun r type type' p q inlined rendered => ?_⟩
  rw [r.renderExpr_inlined inlined, r.renderExpr_inlined inlined] at rendered
  exact apart (Except.ok.inj rendered)

/-- The least whole number is the one above the greatest. Two NaNs share a literal and a variant,
and nothing else. A string that looks like another constant and a floating-point number beside a
whole one have literals of their own. -/
theorem literals_keep_apart_imitations :
    let least : Value := integer (-9223372036854775808)
    let wrapped : Value := integer (9223372036854775807 + 1)
    let quiet : Value := float ⟨0x7FF8000000000000⟩
    let payload : Value := float ⟨0xFFF8000000000001⟩
    let r : Renderer := ⟨fun _ => none, { inlineConstants := true }⟩
    let p : Progress := .start (.empty 0)
    least.literal = wrapped.literal ∧ least = wrapped ∧
      (r.renderExpr (.constant .number quiet) p).1 = (r.renderExpr (.constant .any payload) p).1 ∧
      quiet.variant = payload.variant ∧ quiet ≠ payload ∧
      (string "null").literal ≠ null.literal ∧
      (r.renderExpr (.constant .number (float ⟨0x3FF0000000000000⟩)) p).1 ≠
        (r.renderExpr (.constant .number (integer 1)) p).1 := by
  intro least wrapped quiet payload r p
  have same : least.literal = wrapped.literal := by decide
  have rendered : (r.renderExpr (.constant .number quiet) p).1 =
      (r.renderExpr (.constant .any payload) p).1 := by
    rw [r.renderExpr_inlined rfl, r.renderExpr_inlined rfl]
    decide
  refine ⟨same, ((literals_keep_apart least wrapped).1 same).2 (by decide), rendered,
    ((literals_keep_apart quiet payload).2 r _ _ p p rfl rendered).1, by decide, fun equal => ?_,
    fun equal => ?_⟩
  · exact absurd ((literals_keep_apart (string "null") null).1 equal).1 (by decide)
  · exact absurd ((literals_keep_apart _ _).2 r _ _ p p rfl equal).1 (by decide)

end Value

end QueryDialect
