import QueryDialect.PatternError
import QueryDialect.Pattern.Piece

/-!
# Compiled patterns

A template is a pattern with its elements: verbatim texts, and arguments by index. Each element
knows the bytes of the pattern it was written with. The only patterns that do not compile are those
with an index that does not fit in a machine word.
-/
namespace QueryDialect

open Text

inductive ElementContent where
  | text (verbatim : String)
  | argument (index : Nat) (modifier : Modifier)
  deriving DecidableEq, Repr

structure Element where
  content : ElementContent
  span : Span
  deriving DecidableEq, Repr

structure Template where
  source : String
  elements : List Element
  deriving DecidableEq, Repr

namespace Template

/-- The number of indices a machine word can hold. -/
def indexLimit : Nat := UInt64.size

/-- Pairs each piece with its span, given the byte offset of the first one. -/
def locate : Nat → List Pattern.Piece → List (Pattern.Piece × Span)
  | _, [] => []
  | start, piece :: rest =>
    let stop := start + byteSize piece.chars
    (piece, ⟨start, stop⟩) :: locate stop rest

/-- The pieces keep their order. -/
theorem map_fst_locate (start : Nat) (pieces : List Pattern.Piece) :
    (locate start pieces).map Prod.fst = pieces := by
  induction pieces generalizing start with
  | nil => rfl
  | cons piece rest ih => simp [locate, ih]

def element (pattern : String) : Pattern.Piece × Span → Except PatternError Element
  | (.text content, span) => .ok ⟨.text (.ofList content), span⟩
  | (.placeholder p, span) =>
    if p.index < indexLimit then .ok ⟨.argument p.index p.modifier, span⟩
    else .error ⟨pattern, span, .indexTooLarge (.ofList p.digits)⟩

/-- Reports the leftmost placeholder that is at fault. -/
def compile (pattern : String) : Except PatternError Template := do
  let elements ← (locate 0 (Pattern.pieces pattern.toList)).mapM (element pattern)
  return ⟨pattern, elements⟩

theorem source_of_compile {pattern : String} {t : Template} (h : compile pattern = .ok t) :
    t.source = pattern := by
  unfold compile at h
  cases he : (locate 0 (Pattern.pieces pattern.toList)).mapM (element pattern) with
  | error e => simp [he, bind, Except.bind] at h
  | ok elements =>
    simp only [he, bind, Except.bind, pure, Except.pure, Except.ok.injEq] at h
    rw [← h]

end Template

end QueryDialect
