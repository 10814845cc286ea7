import QueryDialect.Pattern.Placeholder

/-!
# Pieces of a pattern

A pattern is read from left to right. Where a placeholder can be read it is the next piece; every
other character joins the text around it. The pieces, written one after another, are the pattern.
-/
namespace QueryDialect.Pattern

inductive Piece where
  | text (content : List Char)
  | placeholder (p : Placeholder)
  deriving DecidableEq, Repr

namespace Piece

/-- The piece as it is written. -/
def chars : Piece → List Char
  | text content => content
  | placeholder p => p.chars

/-- Puts a character in front, into the text that is already there. -/
def pushText (c : Char) : List Piece → List Piece
  | text content :: rest => text (c :: content) :: rest
  | pieces => text [c] :: pieces

@[simp] theorem flatMap_pushText (c : Char) (pieces : List Piece) :
    (pushText c pieces).flatMap chars = c :: pieces.flatMap chars := by
  unfold pushText
  split <;> simp [chars]

end Piece

def pieces (s : List Char) : List Piece :=
  match _ : Placeholder.read? s with
  | some (p, rest) => .placeholder p :: pieces rest
  | none =>
    match s with
    | [] => []
    | c :: cs => Piece.pushText c (pieces cs)
termination_by s.length
decreasing_by
  · exact Placeholder.length_read? ‹_›
  · simp

@[simp] theorem pieces_nil : pieces [] = [] := by
  rw [pieces]
  rfl

/-- Nothing of a pattern is lost. -/
theorem flatMap_pieces (s : List Char) : (pieces s).flatMap Piece.chars = s := by
  fun_induction pieces s with
  | case1 s p rest h ih => rw [List.flatMap_cons, ih, (Placeholder.eq_of_read? h).2]; rfl
  | case2 => rfl
  | case3 c cs _ ih => rw [Piece.flatMap_pushText, ih]

end QueryDialect.Pattern
