import QueryDialect.Operator
import QueryDialect.Path
import QueryDialect.RenderingError
import QueryDialect.Template

/-!
# Expressions

An expression is a constant, a path, an operator applied to arguments, or a template of its own
applied to arguments. Every node carries the kind of its result. Expressions are compared node by
node: constants by their numeric equality, operators by their number and templates as a whole.
-/
namespace QueryDialect

inductive Expr where
  | constant (type : ResultKind) (value : Value)
  | path (type : ResultKind) (path : Path)
  | operation (type : ResultKind) (operator : Operator) (args : List Expr)
  | template (type : ResultKind) (template : Template) (args : List Expr)

namespace Expr

/-- The kind of result the node was built with. -/
def type : Expr → ResultKind
  | constant type _ | path type _ | operation type _ _ | template type _ _ => type

/-- A constant of the kind its value has. -/
def ofValue {α : Type} [ToValue α] (value : α) : Expr :=
  constant (toValue value).kind (toValue value)

mutual

/-- Equality of two nodes up to the kinds of their own results. -/
def sameNode : Expr → Expr → Bool
  | constant _ v, constant _ w => v == w
  | path _ p, path _ q => p == q
  | operation _ f as, operation _ g bs => f == g && sameArgs as bs
  | template _ t as, template _ u bs => t == u && sameArgs as bs
  | _, _ => false

/-- Equality of argument lists, argument by argument. -/
def sameArgs : List Expr → List Expr → Bool
  | [], [] => true
  | a :: as, b :: bs => (a.type == b.type && sameNode a b) && sameArgs as bs
  | _, _ => false

end

def equals (a b : Expr) : Bool := a.type == b.type && sameNode a b

instance : BEq Expr := ⟨equals⟩

theorem sameArgs_cons (a b : Expr) (as bs : List Expr) :
    sameArgs (a :: as) (b :: bs) = (equals a b && sameArgs as bs) := by
  rw [sameArgs, equals]

def operator? : Expr → Option Operator
  | operation _ f _ => some f
  | _ => none

def value? : Expr → Option Value
  | constant _ v => some v
  | _ => none

def path? : Expr → Option Path
  | path _ p => some p
  | _ => none

/-- The plain text of a leaf; only operators and templates have none. -/
def plainText? : Expr → Option String
  | constant _ v => some v.display
  | path _ p => some p.display
  | operation .. | template .. => none

def args : Expr → List Expr
  | constant .. | path .. => []
  | operation _ _ args | template _ _ args => args

/-- How messages about a missing argument name the node. -/
def owner : Expr → ArgumentOwner
  | operation _ f _ => .operator f.name
  | constant .. | path .. | template .. => .unnamed

/-- An argument by its index. -/
def arg (e : Expr) (index : Nat) : Except RenderingError Expr :=
  match e.args[index]? with
  | some a => .ok a
  | none => .error { fault := .indexOutOfRange index e.args.length e.owner }

end Expr

end QueryDialect
