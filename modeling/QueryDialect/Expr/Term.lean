import QueryDialect.Expr

/-!
# Typed expressions

A term is an expression whose result type is known. The builders put built-in operators on terms of
the types they are meant for; a plain value can stand where a term of its type is expected.
-/
namespace QueryDialect

structure Term (τ : ResultType) where
  expr : Expr
  type_eq : expr.type = τ.kind

namespace Term

variable {τ : ResultType}

/-! Leaves -/

def ofBool (b : Bool) : Term .bool := ⟨.constant .boolean (.bool b), rfl⟩

def ofInt64 (n : Int64) : Term .integer := ⟨.constant .number (.integer n), rfl⟩

def ofInt32 (n : Int32) : Term .integer := ofInt64 n.toInt64

def ofFloat (x : Number.Binary64) : Term .float := ⟨.constant .number (.float x), rfl⟩

def ofString (s : String) : Term .string := ⟨.constant .string (.string s), rfl⟩

instance : Coe Bool (Term .bool) := ⟨ofBool⟩
instance : Coe Int64 (Term .integer) := ⟨ofInt64⟩
instance : Coe Int32 (Term .integer) := ⟨ofInt32⟩
instance : Coe Number.Binary64 (Term .float) := ⟨ofFloat⟩
instance : Coe String (Term .string) := ⟨ofString⟩

def ofPath (τ : ResultType) (p : Path) : Term τ := ⟨.path τ.kind p, rfl⟩

/-! Applications. The number and the kinds of the arguments are up to the caller. -/

def apply (f : OperatorOf τ) (args : List Expr) : Term τ :=
  ⟨.operation τ.kind f.toOperator args, rfl⟩

def ofTemplate (τ : ResultType) (t : Template) (args : List Expr) : Term τ :=
  ⟨.template τ.kind t args, rfl⟩

def unary {ρ : ResultType} (f : OperatorOf ρ) (a : Term τ) : Term ρ := apply f [a.expr]

def binary {ρ : ResultType} (f : OperatorOf ρ) (a b : Term τ) : Term ρ := apply f [a.expr, b.expr]

/-! Comparisons -/

def eq (a b : Term τ) : Term .bool := binary Builtin.eq a b
def ne (a b : Term τ) : Term .bool := binary Builtin.ne a b
def lt (a b : Term τ) : Term .bool := binary Builtin.lt a b
def le (a b : Term τ) : Term .bool := binary Builtin.le a b
def gt (a b : Term τ) : Term .bool := binary Builtin.gt a b
def ge (a b : Term τ) : Term .bool := binary Builtin.ge a b
def isNull (a : Term τ) : Term .bool := unary Builtin.isNull a
def isNotNull (a : Term τ) : Term .bool := unary Builtin.isNotNull a

/-! Logic -/

def and (a b : Term .bool) : Term .bool := binary Builtin.and a b
def or (a b : Term .bool) : Term .bool := binary Builtin.or a b
def not (a : Term .bool) : Term .bool := unary Builtin.not a

/-! Strings -/

def lower (a : Term .string) : Term .string := unary Builtin.lower a
def upper (a : Term .string) : Term .string := unary Builtin.upper a
def concat (a b : Term .string) : Term .string := binary Builtin.concat a b
def like (a pattern : Term .string) : Term .bool := binary Builtin.like a pattern

end Term

end QueryDialect
