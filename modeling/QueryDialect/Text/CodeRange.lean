/-!
# Sets of characters as code point ranges

A character property is a list of inclusive ranges in increasing order. Membership stops at the
first range that does not end before the character.
-/
namespace QueryDialect.Text

/-- Inclusive ranges `(first, last)` of code points. -/
abbrev CodeRanges := List (Nat × Nat)

def CodeRanges.contains (ranges : CodeRanges) (c : Char) : Bool :=
  match ranges.find? (fun range => c.toNat ≤ range.2) with
  | some range => range.1 ≤ c.toNat
  | none => false

/-- Membership is witnessed by a range of the list. -/
theorem CodeRanges.contains_mem {ranges : CodeRanges} {c : Char} (h : ranges.contains c = true) :
    ∃ range ∈ ranges, range.1 ≤ c.toNat ∧ c.toNat ≤ range.2 := by
  unfold CodeRanges.contains at h
  split at h
  · next range found =>
    exact ⟨range, List.mem_of_find?_eq_some found, by simpa using h,
      by simpa using List.find?_some found⟩
  · simp at h

end QueryDialect.Text
