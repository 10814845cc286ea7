import QueryDialect.Text.CaseFolding

/-!
# Modifiers of placeholders

A modifier says what a placeholder does with its argument: take its usual text as it is or in one
letter case, or ask for its plain text instead.
-/
namespace QueryDialect

/-- The text an argument is asked for. A constant, for one, is usually a marker or a literal, and
its plain text is neither. -/
inductive TextForm where
  | usual | plain
  deriving DecidableEq, Repr

inductive Modifier where
  | keep | plain | lower | upper
  deriving DecidableEq, Repr

namespace Modifier

def form : Modifier → TextForm
  | plain => .plain
  | keep | lower | upper => .usual

/-- What becomes of the text of the argument. -/
def apply : Modifier → String → String
  | lower, s => Text.lower s
  | upper, s => Text.upper s
  | keep, s | plain, s => s

/-- The modifier letters, in either case. -/
def ofLetter? (c : Char) : Option Modifier :=
  if c = 's' ∨ c = 'S' then some plain
  else if c = 'l' ∨ c = 'L' then some lower
  else if c = 'u' ∨ c = 'U' then some upper
  else none

end Modifier

end QueryDialect
