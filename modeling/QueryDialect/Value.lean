import QueryDialect.Number.Notation
import QueryDialect.Text.Literal

/-!
# Constant values

The constants of a query, the kind of result each one has, and its two texts: the plain one, and
the literal that a query can hold in place of a bound constant.
-/
namespace QueryDialect

open Number

/-- The kind of result of an expression, as far as it is known when it is rendered. -/
inductive ResultKind where
  | boolean | number | string | any
  deriving DecidableEq, Repr

/-- The type of a typed expression. Whole and floating-point numbers are kept apart here. -/
inductive ResultType where
  | bool | string | integer | float | any
  deriving DecidableEq, Repr

def ResultType.kind : ResultType → ResultKind
  | bool => .boolean
  | string => .string
  | integer | float => .number
  | any => .any

inductive Value where
  | null
  | bool (b : Bool)
  | integer (n : Int64)
  | float (x : Binary64)
  | string (s : String)
  deriving DecidableEq, Repr

namespace Value

/-- Equality of constants; floating-point numbers are compared as numbers. -/
def equals : Value → Value → Bool
  | null, null => true
  | bool a, bool b => a == b
  | integer m, integer n => m == n
  | float x, float y => x.equals y
  | string s, string t => s == t
  | _, _ => false

instance : BEq Value := ⟨equals⟩

def kind : Value → ResultKind
  | null => .any
  | bool _ => .boolean
  | integer _ | float _ => .number
  | string _ => .string

/-- Plain numbers are positional at any size. -/
def plainFloat : FloatStyle := ⟨none, false⟩

/-- Literal numbers show a point, unless they lie outside `10 ^ (-4)` to `10 ^ 16`; those have an
exponent. -/
def literalFloat : FloatStyle := ⟨some (-4, 15), true⟩

def boolText (b : Bool) : String := if b then "true" else "false"

/-- The plain text, used where a placeholder asks for its argument as a string. -/
def display : Value → String
  | null => "null"
  | bool b => boolText b
  | integer n => toString n.toInt
  | float x => plainFloat.print x
  | string s => s

/-- The text that stands for the constant inside a query. -/
def literal : Value → String
  | null => "null"
  | bool b => boolText b
  | integer n => toString n.toInt
  | float x => literalFloat.print x
  | string s => Text.literal s

def isNull : Value → Bool
  | null => true
  | _ => false

def string? : Value → Option String
  | string s => some s
  | _ => none

def integer? : Value → Option Int64
  | integer n => some n
  | _ => none

end Value

/-- Plain values that can be used as constants. -/
class ToValue (α : Type) where
  toValue : α → Value

export ToValue (toValue)

instance : ToValue Value := ⟨id⟩
instance : ToValue Bool := ⟨.bool⟩
instance : ToValue Int64 := ⟨.integer⟩
instance : ToValue Int32 := ⟨fun n => .integer n.toInt64⟩
instance : ToValue Binary64 := ⟨.float⟩
instance : ToValue String := ⟨.string⟩

/-- An absent value is the null constant. -/
instance {α : Type} [ToValue α] : ToValue (Option α) := ⟨fun value => value.elim .null toValue⟩

end QueryDialect
