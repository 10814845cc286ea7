import QueryDialect.PatternError
import QueryDialect.RenderingError

/-!
# Failures

What compiles patterns and renders them as well fails with an error of either stage.
-/
namespace QueryDialect

inductive Failure where
  | compile (error : PatternError)
  | render (error : RenderingError)
  deriving DecidableEq, Repr

namespace Failure

def message : Failure → String
  | compile e => e.message
  | render e => e.message

def renderKind? : Failure → Option FaultKind
  | compile _ => none
  | render e => some e.kind

/-- The text of the underlying cause; a compile error has none. -/
def cause? : Failure → Option String
  | compile _ => none
  | render e => e.cause

end Failure

end QueryDialect
