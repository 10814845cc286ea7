/-!
# Paths

A path names a column or variable by its segments, which are written with points between them.
-/
namespace QueryDialect

structure Path where
  segments : List String
  deriving DecidableEq, Repr

namespace Path

def root (segment : String) : Path := ⟨[segment]⟩

/-- The path one level below. -/
def child (path : Path) (segment : String) : Path := ⟨path.segments ++ [segment]⟩

/-- The last segment, empty for the empty path. -/
def name (path : Path) : String := path.segments.getLast?.getD ""

def display (path : Path) : String := ".".intercalate path.segments

@[simp] theorem name_child (path : Path) (segment : String) :
    (path.child segment).name = segment := by
  simp [name, child]

/-- Building a path level by level gives the path of all its segments. -/
theorem foldl_child (path : Path) (segments : List String) :
    segments.foldl child path = ⟨path.segments ++ segments⟩ := by
  induction segments generalizing path with
  | nil => simp
  | cons segment rest ih => simp [ih, child]

end Path

end QueryDialect
