import Mathlib.Tactic.Common
import QueryDialect.Expr

/-!
# Subexpressions

Induction on expressions through their argument lists, and the expressions that stand inside another
one, whether a template renders them or not.
-/
namespace QueryDialect.Expr

/-- Induction with the hypothesis at hand for every argument of a node. -/
@[elab_as_elim, induction_eliminator]
theorem inductionArgs {motive : Expr → Prop}
    (constant : ∀ type value, motive (.constant type value))
    (path : ∀ type path, motive (.path type path))
    (operation : ∀ type f args, (∀ a ∈ args, motive a) → motive (.operation type f args))
    (template : ∀ type t args, (∀ a ∈ args, motive a) → motive (.template type t args))
    (e : Expr) : motive e := by
  refine @Expr.rec motive (fun args => ∀ a ∈ args, motive a) constant path operation template
    ?_ ?_ e
  · simp
  · intro e es he hes a ha
    rcases List.mem_cons.mp ha with rfl | ha
    · exact he
    · exact hes a ha

/-- The expression itself, its arguments, their arguments and so on. -/
inductive Within (s : Expr) : Expr → Prop
  | self : Within s s
  | arg {a e : Expr} (mem : a ∈ e.args) (within : Within s a) : Within s e

/-- The operator is applied somewhere in the expression, whether a template renders it or not. -/
def Applies (e : Expr) (f : Operator) : Prop := ∃ type args, Within (.operation type f args) e

lemma applies_operation (type : ResultKind) (f : Operator) (args : List Expr) :
    (operation type f args).Applies f := ⟨type, args, .self⟩

lemma Applies.arg {a e : Expr} {f : Operator} (mem : a ∈ e.args) (h : a.Applies f) :
    e.Applies f := by
  obtain ⟨type, args, within⟩ := h
  exact ⟨type, args, .arg mem within⟩

lemma within_iff {s e : Expr} : Within s e ↔ s = e ∨ ∃ a ∈ e.args, Within s a := by
  constructor
  · intro h
    cases h with
    | self => exact .inl rfl
    | arg mem within => exact .inr ⟨_, mem, within⟩
  · rintro (rfl | ⟨a, mem, within⟩)
    · exact .self
    · exact .arg mem within

variable {s : Expr} {type : ResultKind} {args : List Expr}

@[simp] lemma within_constant {value : Value} :
    Within s (.constant type value) ↔ s = .constant type value := by
  simp [within_iff (e := .constant type value), Expr.args]

@[simp] lemma within_path {path : Path} : Within s (.path type path) ↔ s = .path type path := by
  simp [within_iff (e := .path type path), Expr.args]

@[simp] lemma within_operation {f : Operator} :
    Within s (.operation type f args) ↔ s = .operation type f args ∨ ∃ a ∈ args, Within s a :=
  within_iff

@[simp] lemma within_template {t : Template} :
    Within s (.template type t args) ↔ s = .template type t args ∨ ∃ a ∈ args, Within s a :=
  within_iff

@[simp] lemma not_applies_constant {value : Value} {g : Operator} :
    ¬(constant type value).Applies g := by
  simp [Applies]

@[simp] lemma not_applies_path {path : Path} {g : Operator} :
    ¬(Expr.path type path).Applies g := by
  simp [Applies]

@[simp] lemma applies_operation_iff {f g : Operator} :
    (operation type f args).Applies g ↔ g = f ∨ ∃ a ∈ args, a.Applies g := by
  constructor
  · rintro ⟨type', args', within⟩
    rcases within_operation.1 within with same | ⟨a, mem, within⟩
    · exact .inl (operation.inj same).2.1
    · exact .inr ⟨a, mem, type', args', within⟩
  · rintro (rfl | ⟨a, mem, applied⟩)
    · exact applies_operation type g args
    · exact applied.arg mem

end QueryDialect.Expr
