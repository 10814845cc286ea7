import QueryDialect.Proofs.Builders
import QueryDialect.Proofs.Subexpression

/-!
# Types of made expressions

A few constructors make every expression, typed or not. They keep the kinds of the nodes in step: a
constant has the kind of its value, and an application has the kind its operator results in. The
builders see to the operands as well. All of this holds at every node, however deep it is nested.
-/
namespace QueryDialect

open QueryDialect.Expr (Within)

/-- The expressions that can be made, either as terms of a type or without one. An operator is
applied by its builder or, where that is allowed, by hand to arguments of any number and kind. -/
inductive Expr.Made (byHand : Bool) : Option ResultType → Expr → Prop
  | ofValue {α : Type} [ToValue α] (value : α) : Made byHand none (.ofValue value)
  | ofTerm {τ : ResultType} {e : Expr} (h : Made byHand (some τ) e) : Made byHand none e
  | leaf {τ : ResultType} {t : Term τ} (h : t.Leaf) : Made byHand (some τ) t.expr
  | unary {τ ρ : ResultType} {a : Term τ} {t : Term ρ} (step : a.Unary t)
      (operand : Made byHand (some τ) a.expr) : Made byHand (some ρ) t.expr
  | binary {τ ρ : ResultType} {a b : Term τ} {t : Term ρ} (step : a.Binary b t)
      (left : Made byHand (some τ) a.expr) (right : Made byHand (some τ) b.expr) :
      Made byHand (some ρ) t.expr
  | ofTemplate (τ : ResultType) (t : Template) {args : List Expr}
      (h : ∀ a ∈ args, Made byHand none a) : Made byHand (some τ) (Term.ofTemplate τ t args).expr
  | apply {τ : ResultType} (f : OperatorOf τ) {args : List Expr} (allowed : byHand = true)
      (h : ∀ a ∈ args, Made byHand none a) : Made byHand (some τ) (Term.apply f args).expr

/-- What the constructors see to at one node. Operators applied by hand can have any operands. -/
def Expr.NodeTyped (byHand : Bool) : Expr → Prop
  | constant type value => type = value.kind
  | operation type f args => type = f.result ∧ (byHand = false →
      ∃ family, Builtin.family? f = some family ∧ family.Takes (args.map Expr.type))
  | path .. | template .. => True

/-- The same at the node and at every one below it. -/
def Expr.Typed (byHand : Bool) (e : Expr) : Prop := ∀ s, Within s e → s.NodeTyped byHand

variable {byHand : Bool} {τ : ResultType}

lemma Expr.typed_of_args {e : Expr} (node : e.NodeTyped byHand)
    (args : ∀ a ∈ e.args, a.Typed byHand) : e.Typed byHand := by
  intro s within
  cases within with
  | self => exact node
  | arg mem within => exact args _ mem s within

lemma Expr.typed_constant (value : Value) : (constant value.kind value).Typed byHand :=
  typed_of_args rfl nofun

lemma Term.AppliesTo.typed {t : Term τ} {operands : List Expr} (h : t.AppliesTo operands)
    (typed : ∀ a ∈ operands, a.Typed byHand) : t.expr.Typed byHand := by
  obtain ⟨f, rfl, -, family⟩ := h
  exact Expr.typed_of_args ⟨f.result_eq.symm, fun _ => family⟩ typed

namespace Expr

lemma Made.typed {type : Option ResultType} {e : Expr} (h : e.Made byHand type) :
    e.Typed byHand := by
  induction h with
  | ofValue value => exact typed_constant _
  | ofTerm _ ih => exact ih
  | leaf h =>
    obtain ⟨value, expr⟩ | ⟨p, expr⟩ := h.cases_expr
    · rw [expr]
      exact typed_constant value
    · rw [expr]
      exact typed_of_args trivial nofun
  | unary step _ operand => exact step.appliesTo.typed (by simpa using operand)
  | binary step _ _ left right => exact step.appliesTo.typed (by simpa using ⟨left, right⟩)
  | ofTemplate τ t _ args => exact typed_of_args trivial args
  | apply f allowed _ args =>
    refine typed_of_args ⟨f.result_eq.symm, fun builders => ?_⟩ args
    rw [allowed] at builders
    cases builders

/-- At every node of an expression that can be made, a constant has the kind of its value and an
application the kind that its operator results in. If all operators were applied by their builders,
then every operator in the expression has a builder, and its operands are those that the family of
the operator takes: two of one kind for a comparison, one for a null test, two Booleans for a
connective, one for a negation, two strings for concatenation and pattern matching, and one string
for a letter case. -/
theorem Made.types {type : Option ResultType} {e : Expr} (h : e.Made byHand type) :
    (∀ kind value, Within (.constant kind value) e → kind = value.kind) ∧
    (∀ kind f args, Within (.operation kind f args) e → kind = f.result) ∧
    (byHand = false → ∀ kind f args, Within (.operation kind f args) e →
      (∃ family : Builtin.Family, family.members.contains f) ∧
      ∀ family : Builtin.Family, family.members.contains f →
        family.Takes (args.map Expr.type)) := by
  have typed := h.typed
  refine ⟨fun kind value within => typed _ within, fun kind f args within => (typed _ within).1,
    fun builders kind f args within => ?_⟩
  obtain ⟨family, found, takes⟩ := (typed _ within).2 builders
  refine ⟨⟨family, Builtin.members_of_family? found⟩, fun other member => ?_⟩
  obtain rfl := Option.some.inj (found.symm.trans (Builtin.family?_eq_some member))
  exact takes

/-- A template stands between a negation and the operators below it, with an untyped null beside
them. Applied by hand, a comparison can have a single operand, and the kinds of the nodes are right
nevertheless. -/
theorem Made.types_nested :
    let equal := operation .boolean Builtin.eq.toOperator
      [path .number (.root "id"), constant .number (.integer 5)]
    let name := operation .string Builtin.lower.toOperator [path .string (.root "name")]
    let starts := operation .boolean Builtin.like.toOperator
      [name, constant .string (.string "a%")]
    let condition := operation .boolean Builtin.and.toOperator [equal, starts]
    let t : Template := ⟨"{0}", [⟨.argument 0 .keep, ⟨0, 3⟩⟩]⟩
    let e := operation .boolean Builtin.not.toOperator
      [template .boolean t [condition, constant .any .null]]
    let single := operation .boolean Builtin.eq.toOperator [e]
    e.Made false (some .bool) ∧ Within starts e ∧ ResultKind.boolean = Builtin.like.result ∧
      Builtin.Family.text.Takes ([name, constant .string (.string "a%")].map type) ∧
      Within condition e ∧ Builtin.Family.connective.Takes ([equal, starts].map type) ∧
      single.Made true (some .bool) ∧ Within (constant .any .null) single ∧
      ResultKind.any = Value.null.kind ∧ ¬Builtin.Family.comparison.Takes ([e].map type) := by
  intro equal name starts condition t e single
  have id : Term.Leaf (.ofPath .integer (.root "id")) := .ofPath _ _
  have five : Term.Leaf (.ofInt32 5) := .ofInt32 5
  have column : Term.Leaf (.ofPath .string (.root "name")) := .ofPath _ _
  have shape : Term.Leaf (.ofString "a%") := .ofString _
  have both (byHand : Bool) : condition.Made byHand (some .bool) :=
    .binary (.and _ _) (.binary (.eq _ _) (.leaf id) (.leaf five))
      (.binary (.like _ _) (.unary (.lower _) (.leaf column)) (.leaf shape))
  have made (byHand : Bool) : e.Made byHand (some .bool) := by
    refine .unary (.not (.ofTemplate .bool t _)) (.ofTemplate .bool t fun a mem => ?_)
    rcases List.mem_cons.1 mem with rfl | mem
    · exact .ofTerm (both byHand)
    · rw [List.mem_singleton.1 mem]
      exact .ofValue Value.null
  have second {a b : Expr} : b ∈ [a, b] := List.mem_cons_of_mem _ (List.mem_singleton_self _)
  have inner : Within condition e :=
    .arg (List.mem_singleton_self _) (.arg List.mem_cons_self .self)
  have within : Within starts e :=
    .arg (List.mem_singleton_self _) (.arg List.mem_cons_self (.arg second .self))
  have null : Within (constant .any .null) single :=
    .arg (List.mem_singleton_self _) (.arg (List.mem_singleton_self _) (.arg second .self))
  have applied : single.Made true (some .bool) := by
    refine .apply Builtin.eq rfl fun a mem => ?_
    rw [List.mem_singleton.1 mem]
    exact .ofTerm (made true)
  obtain ⟨-, kinds, operands⟩ := (made false).types
  refine ⟨made false, within, kinds _ _ _ within, (operands rfl _ _ _ within).2 .text rfl, inner,
    (operands rfl _ _ _ inner).2 .connective rfl, applied, null, applied.types.1 _ _ null, ?_⟩
  rintro ⟨kind, pair⟩
  cases pair

end Expr

end QueryDialect
