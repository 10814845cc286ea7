import QueryDialect.Value

/-!
# Operators

An operator is known by its number alone; its name is for messages. The built-in operators have
small numbers, and an operator supply hands out the numbers from `2 ^ 16` on.
-/
namespace QueryDialect

structure Operator where
  id : UInt32
  name : String
  result : ResultKind
  deriving Repr

namespace Operator

/-- Two operators are the same if their numbers are. -/
instance : BEq Operator := ⟨fun a b => a.id == b.id⟩

theorem beq_def (a b : Operator) : (a == b) = (a.id == b.id) := rfl

/-- The name together with the number. -/
def describe (op : Operator) : String := op.name ++ "#" ++ toString op.id.toNat

end Operator

/-- An operator with results of a known type. -/
structure OperatorOf (τ : ResultType) extends Operator where
  result_eq : result = τ.kind

/-- The source of numbers for new operators. -/
structure OperatorSupply where
  next : UInt32
  deriving DecidableEq, Repr

namespace OperatorSupply

/-- Numbers below this one are kept for built-in operators. -/
def firstUserId : UInt32 := 65536

def initial : OperatorSupply := ⟨firstUserId⟩

/-- A new operator, whatever other operators have its name. The counter wraps at its end. -/
def create (supply : OperatorSupply) (τ : ResultType) (name : String) :
    OperatorOf τ × OperatorSupply :=
  ({ id := supply.next, name, result := τ.kind, result_eq := rfl }, ⟨supply.next + 1⟩)

end OperatorSupply

namespace Builtin

def builtin (τ : ResultType) (id : UInt32) (name : String) : OperatorOf τ :=
  { id, name, result := τ.kind, result_eq := rfl }

/-! Comparisons -/

def eq := builtin .bool 1 "EQ"
def ne := builtin .bool 2 "NE"
def lt := builtin .bool 3 "LT"
def le := builtin .bool 4 "LOE"
def gt := builtin .bool 5 "GT"
def ge := builtin .bool 6 "GOE"
def isNull := builtin .bool 7 "IS_NULL"
def isNotNull := builtin .bool 8 "IS_NOT_NULL"
def like := builtin .bool 9 "LIKE"

/-! Logic -/

def and := builtin .bool 10 "AND"
def or := builtin .bool 11 "OR"
def not := builtin .bool 12 "NOT"

/-! Arithmetic -/

def add := builtin .any 13 "ADD"
def sub := builtin .any 14 "SUB"
def mul := builtin .any 15 "MUL"
def div := builtin .any 16 "DIV"

/-! Strings -/

def concat := builtin .string 17 "CONCAT"
def lower := builtin .string 18 "LOWER"
def upper := builtin .string 19 "UPPER"

/-- Every built-in operator with its type, in the order of their numbers. -/
def all : List (Σ τ, OperatorOf τ) := [
  ⟨_, eq⟩, ⟨_, ne⟩, ⟨_, lt⟩, ⟨_, le⟩, ⟨_, gt⟩, ⟨_, ge⟩, ⟨_, isNull⟩, ⟨_, isNotNull⟩, ⟨_, like⟩,
  ⟨_, and⟩, ⟨_, or⟩, ⟨_, not⟩, ⟨_, add⟩, ⟨_, sub⟩, ⟨_, mul⟩, ⟨_, div⟩, ⟨_, concat⟩, ⟨_, lower⟩,
  ⟨_, upper⟩]

def named? (name : String) : Option (Σ τ, OperatorOf τ) :=
  all.find? fun op => op.2.name == name

/-- The built-in numbers are distinct and below every number a supply starts with. -/
theorem all_ids : all.map (fun op => op.2.id.toNat) = List.range' 1 19 := by
  decide

end Builtin

end QueryDialect
