import QueryDialect.Operator

/-!
# Dialects

A dialect gives the pattern each operator is written with. Pattern tables are filled entry by
entry, a later entry taking the place of an earlier one with the same key, and serve as dialects by
the number of the operator or by its name.
-/
namespace QueryDialect

/-- The pattern of every operator the dialect can express. -/
abbrev Dialect := Operator → Option String

/-- Patterns under keys, the latest entry first. -/
structure PatternTable (κ : Type) where
  entries : List (κ × String)
  deriving DecidableEq, Repr

namespace PatternTable

variable {κ : Type} [BEq κ]

def empty : PatternTable κ := ⟨[]⟩

def add (table : PatternTable κ) (key : κ) (pattern : String) : PatternTable κ :=
  ⟨(key, pattern) :: table.entries⟩

def find? (table : PatternTable κ) (key : κ) : Option String := table.entries.lookup key

@[simp] theorem find?_empty (key : κ) : (empty : PatternTable κ).find? key = none := rfl

theorem find?_add (table : PatternTable κ) (key key' : κ) (pattern : String) :
    (table.add key pattern).find? key' =
      if key' == key then some pattern else table.find? key' := by
  simp only [add, find?, List.lookup_cons]
  cases key' == key <;> rfl

/-- Two operators of one name have patterns of their own. -/
def byNumber (table : PatternTable UInt32) : Dialect := fun op => table.find? op.id

/-- Operators of one name share a pattern. -/
def byName (table : PatternTable String) : Dialect := fun op => table.find? op.name

end PatternTable

end QueryDialect
