import QueryDialect.Text.Position
import QueryDialect.Text.Quoted

/-!
# Errors of pattern compilation

A pattern that cannot be compiled is reported with its text, the place of the fault and a reason.
The report shows the line of the pattern with a pointer below the place.
-/
namespace QueryDialect

open Text

/-- Why a pattern is rejected: an index that does not fit in a machine word, or a reason that the
user of the library states. -/
inductive PatternFault where
  | indexTooLarge (digits : String)
  | stated (text : String)
  deriving DecidableEq, Repr

def PatternFault.describe : PatternFault → String
  | indexTooLarge digits =>
    s!"invalid placeholder index {digits}: number too large to fit in target type"
  | stated text => text

structure PatternError where
  pattern : String
  span : Span
  fault : PatternFault
  deriving DecidableEq, Repr

namespace PatternError

def message (e : PatternError) : String :=
  s!"malformed template {quote e.pattern}: {e.fault.describe}"

def position (e : PatternError) : Position := .ofOffset e.pattern e.span.start

/-- A number right-aligned in three columns, or in as many as it needs. -/
def lineLabel (number : Nat) : String :=
  let digits := toString number
  .ofList (List.replicate (3 - digits.length) ' ') ++ digits

/-- Blanks up to the column, then one caret for each byte of the span and at least one. -/
def pointer (e : PatternError) : String :=
  .ofList (List.replicate (e.position.column - 1) ' ' ++ List.replicate (max e.span.length 1) '^')

def sourceLine (e : PatternError) : String := lineAt e.pattern e.position.line

/-- The message, the position, and the line of the pattern above its pointer. -/
def report (e : PatternError) : String :=
  "\n".intercalate [
    s!"Error: {e.fault.describe}",
    s!" --> {e.position.line}:{e.position.column}",
    "  |",
    s!"{lineLabel e.position.line} | {e.sourceLine}",
    s!"    | {e.pointer}"]

end PatternError

end QueryDialect
