import Mathlib.Tactic.Common
import QueryDialect.Expr.Term

/-!
# Builders

What the builders make: typed constants and paths, and built-in operators on one operand or on two.
Every operator with a builder belongs to a family that says how many operands it takes and of which
kinds, and the builders give each operator what its family takes.
-/
namespace QueryDialect

namespace Term

/-- Typed constants and paths. A plain value that stands for an operand is a typed constant. -/
inductive Leaf : {τ : ResultType} → Term τ → Prop
  | ofBool (b : Bool) : Leaf (.ofBool b)
  | ofInt64 (n : Int64) : Leaf (.ofInt64 n)
  | ofInt32 (n : Int32) : Leaf (.ofInt32 n)
  | ofFloat (x : Number.Binary64) : Leaf (.ofFloat x)
  | ofString (s : String) : Leaf (.ofString s)
  | ofPath (τ : ResultType) (p : Path) : Leaf (.ofPath τ p)

/-- The second term is what a builder makes of the first one. -/
inductive Unary : {τ ρ : ResultType} → Term τ → Term ρ → Prop
  | isNull {τ : ResultType} (a : Term τ) : Unary a a.isNull
  | isNotNull {τ : ResultType} (a : Term τ) : Unary a a.isNotNull
  | not (a : Term .bool) : Unary a a.not
  | lower (a : Term .string) : Unary a a.lower
  | upper (a : Term .string) : Unary a a.upper

/-- The third term is what a builder makes of the first two. -/
inductive Binary : {τ ρ : ResultType} → Term τ → Term τ → Term ρ → Prop
  | eq {τ : ResultType} (a b : Term τ) : Binary a b (a.eq b)
  | ne {τ : ResultType} (a b : Term τ) : Binary a b (a.ne b)
  | lt {τ : ResultType} (a b : Term τ) : Binary a b (a.lt b)
  | le {τ : ResultType} (a b : Term τ) : Binary a b (a.le b)
  | gt {τ : ResultType} (a b : Term τ) : Binary a b (a.gt b)
  | ge {τ : ResultType} (a b : Term τ) : Binary a b (a.ge b)
  | and (a b : Term .bool) : Binary a b (a.and b)
  | or (a b : Term .bool) : Binary a b (a.or b)
  | concat (a b : Term .string) : Binary a b (a.concat b)
  | like (a b : Term .string) : Binary a b (a.like b)

end Term

namespace Builtin

/-- The operators whose builders take one operand. -/
def unary : List Operator :=
  [isNull.toOperator, isNotNull.toOperator, not.toOperator, lower.toOperator, upper.toOperator]

/-- How many arguments the builders give to an operator. -/
def arity (f : Operator) : Nat := if unary.contains f then 1 else 2

/-- The families of the operators that have builders, by the operands they take. -/
inductive Family where
  | comparison | nullTest | connective | negation | text | letterCase
  deriving DecidableEq, Repr

def Family.members : Family → List Operator
  | comparison => [eq.toOperator, ne.toOperator, lt.toOperator, le.toOperator, gt.toOperator,
      ge.toOperator]
  | nullTest => [isNull.toOperator, isNotNull.toOperator]
  | connective => [and.toOperator, or.toOperator]
  | negation => [not.toOperator]
  | text => [concat.toOperator, like.toOperator]
  | letterCase => [lower.toOperator, upper.toOperator]

def Family.all : List Family := [comparison, nullTest, connective, negation, text, letterCase]

/-- The family of an operator, by its number. -/
def family? (f : Operator) : Option Family := Family.all.find? (·.members.contains f)

/-- The number of the operands, and their kinds, are those the family is meant for. -/
def Family.Takes (kinds : List ResultKind) : Family → Prop
  | comparison => ∃ kind, kinds = [kind, kind]
  | nullTest => ∃ kind, kinds = [kind]
  | connective => kinds = [.boolean, .boolean]
  | negation => kinds = [.boolean]
  | text => kinds = [.string, .string]
  | letterCase => kinds = [.string]

lemma family?_congr {f g : Operator} (h : f.id = g.id) : family? f = family? g := by
  have members (family : Family) : family.members.contains f = family.members.contains g := by
    rw [List.contains_eq_any_beq, List.contains_eq_any_beq]
    simp only [Operator.beq_def, h]
  simp only [family?, members]

lemma family?_of_mem (family : Family) : ∀ f ∈ family.members, family? f = some family := by
  cases family <;> decide

lemma members_of_family? {family : Family} {f : Operator} (h : family? f = some family) :
    family.members.contains f := by
  have member := List.find?_some h
  exact member

/-- No two families share a number. -/
lemma family?_eq_some {family : Family} {f : Operator} (h : family.members.contains f) :
    family? f = some family := by
  rw [List.contains_eq_any_beq, List.any_eq_true] at h
  obtain ⟨g, mem, same⟩ := h
  rw [family?_congr (eq_of_beq same)]
  exact family?_of_mem family g mem

end Builtin

namespace Term

variable {τ ρ : ResultType}

/-- An operator on operands of the kinds that its family takes, as many as the builders give it. -/
def AppliesTo (t : Term ρ) (operands : List Expr) : Prop :=
  ∃ f : OperatorOf ρ, t = apply f operands ∧ operands.length = Builtin.arity f.toOperator ∧
    ∃ family, Builtin.family? f.toOperator = some family ∧ family.Takes (operands.map Expr.type)

lemma appliesTo_unary {a : Term τ} (f : OperatorOf ρ) {family : Builtin.Family}
    (arity : Builtin.arity f.toOperator = 1)
    (found : Builtin.family? f.toOperator = some family) (takes : family.Takes [τ.kind]) :
    (unary f a).AppliesTo [a.expr] :=
  ⟨f, rfl, arity.symm, family, found, by rwa [List.map_singleton, a.type_eq]⟩

lemma appliesTo_binary {a b : Term τ} (f : OperatorOf ρ) {family : Builtin.Family}
    (arity : Builtin.arity f.toOperator = 2)
    (found : Builtin.family? f.toOperator = some family) (takes : family.Takes [τ.kind, τ.kind]) :
    (binary f a b).AppliesTo [a.expr, b.expr] :=
  ⟨f, rfl, arity.symm, family, found,
    by rwa [List.map_cons, List.map_singleton, a.type_eq, b.type_eq]⟩

lemma Unary.appliesTo {a : Term τ} {t : Term ρ} (h : a.Unary t) : t.AppliesTo [a.expr] := by
  cases h with
  | isNull => exact appliesTo_unary Builtin.isNull rfl rfl ⟨_, rfl⟩
  | isNotNull => exact appliesTo_unary Builtin.isNotNull rfl rfl ⟨_, rfl⟩
  | not => exact appliesTo_unary Builtin.not rfl rfl rfl
  | lower => exact appliesTo_unary Builtin.lower rfl rfl rfl
  | upper => exact appliesTo_unary Builtin.upper rfl rfl rfl

lemma Binary.appliesTo {a b : Term τ} {t : Term ρ} (h : a.Binary b t) :
    t.AppliesTo [a.expr, b.expr] := by
  cases h with
  | eq => exact appliesTo_binary Builtin.eq rfl rfl ⟨_, rfl⟩
  | ne => exact appliesTo_binary Builtin.ne rfl rfl ⟨_, rfl⟩
  | lt => exact appliesTo_binary Builtin.lt rfl rfl ⟨_, rfl⟩
  | le => exact appliesTo_binary Builtin.le rfl rfl ⟨_, rfl⟩
  | gt => exact appliesTo_binary Builtin.gt rfl rfl ⟨_, rfl⟩
  | ge => exact appliesTo_binary Builtin.ge rfl rfl ⟨_, rfl⟩
  | and => exact appliesTo_binary Builtin.and rfl rfl rfl
  | or => exact appliesTo_binary Builtin.or rfl rfl rfl
  | concat => exact appliesTo_binary Builtin.concat rfl rfl rfl
  | like => exact appliesTo_binary Builtin.like rfl rfl rfl

/-- A leaf is a constant of the kind of its value or a path. -/
lemma Leaf.cases_expr {t : Term τ} (h : t.Leaf) :
    (∃ value, t.expr = .constant value.kind value) ∨ ∃ p, t.expr = .path τ.kind p := by
  cases h with
  | ofBool b => exact .inl ⟨.bool b, rfl⟩
  | ofInt64 n => exact .inl ⟨.integer n, rfl⟩
  | ofInt32 n => exact .inl ⟨.integer n.toInt64, rfl⟩
  | ofFloat x => exact .inl ⟨.float x, rfl⟩
  | ofString s => exact .inl ⟨.string s, rfl⟩
  | ofPath τ p => exact .inr ⟨p, rfl⟩

end Term

end QueryDialect
