import Mathlib.Data.List.Forall2
import QueryDialect.Proofs.Meaning

/-!
# Operators and their templates

An operator applied to arguments and the template its pattern compiles to, applied to the same
arguments, are rendered alike. This stays so if operators are replaced at any places of an
expression at once.
-/
namespace QueryDialect

/-- Some of the operators in an expression, at any nodes, are replaced by the templates of their
patterns. The arguments stay where they are and are treated in the same way; the kind of result of a
replaced node is free. -/
inductive Expr.Expands (dialect : Dialect) : Expr → Expr → Prop
  | constant (type : ResultKind) (value : Value) :
      Expands dialect (.constant type value) (.constant type value)
  | path (type : ResultKind) (path : Path) : Expands dialect (.path type path) (.path type path)
  | operation {as bs : List Expr} (type : ResultKind) (f : Operator)
      (args : List.Forall₂ (Expands dialect) as bs) :
      Expands dialect (.operation type f as) (.operation type f bs)
  | template {as bs : List Expr} (type : ResultKind) (t : Template)
      (args : List.Forall₂ (Expands dialect) as bs) :
      Expands dialect (.template type t as) (.template type t bs)
  | expand {f : Operator} {pattern : String} {t : Template} {as bs : List Expr}
      (type other : ResultKind) (found : dialect f = some pattern)
      (compiled : Template.compile pattern = .ok t) (args : List.Forall₂ (Expands dialect) as bs) :
      Expands dialect (.operation type f as) (.template other t bs)

lemma Expr.Expands.plainText?_eq {dialect : Dialect} {e e' : Expr} (h : e.Expands dialect e') :
    e.plainText? = e'.plainText? := by
  cases h <;> rfl

/-- The left and the right outcome, as a pair of sides. -/
lemma compositional_alike :
    Outcome.Compositional (fun _ => True) fun x : Bool → Outcome String =>
      (x false).Alike (x true) where
  text _ := .refl _
  fault _ := .refl _
  modify _ _ h := h.map _
  append hx hy := hx.append hy

namespace Renderer

variable (r : Renderer)

lemma alike_outcomeAs {e e' : Expr} (hp : e.plainText? = e'.plainText?) {depth : Nat}
    (h : (r.outcome e depth).Alike (r.outcome e' depth)) (form : TextForm) :
    (r.outcomeAs e form depth).Alike (r.outcomeAs e' form depth) := by
  cases form with
  | usual => exact h
  | plain =>
    cases hl : e.plainText? with
    | none => rwa [outcomeAs_of_inner _ hl, outcomeAs_of_inner _ (hp.symm.trans hl)]
    | some text =>
      rw [outcomeAs_of_leaf _ hl, outcomeAs_of_leaf _ (hp.symm.trans hl)]
      exact .refl _

lemma alike_expand (t : Template) {as bs : List Expr}
    (args : List.Forall₂ (Expr.Expands r.dialect) as bs)
    (ih : ∀ a ∈ as, ∀ b, a.Expands r.dialect b → ∀ depth,
      (r.outcome a depth).Alike (r.outcome b depth)) (depth : Nat) :
    (r.expandOutcome t (r.argOutcomes as) depth).Alike
      (r.expandOutcome t (r.argOutcomes bs) depth) := by
  obtain ⟨hlen, hz⟩ := List.forall₂_iff_zip.1 args
  have ha : (as.zip bs).map Prod.fst = as := List.map_fst_zip (Nat.le_of_eq hlen)
  have hb : (as.zip bs).map Prod.snd = bs := List.map_snd_zip (Nat.le_of_eq hlen.symm)
  have hp : ∀ p ∈ as.zip bs, ∀ form, (r.outcomeAs p.1 form (depth + 1)).Alike
      (r.outcomeAs p.2 form (depth + 1)) := by
    rintro ⟨a, b⟩ mem form
    have hab := hz mem
    exact r.alike_outcomeAs hab.plainText?_eq (ih a (List.of_mem_zip mem).1 b hab _) form
  have he := compositional_alike.expand (r := fun _ => r) (t := t)
    (g := fun right : Bool => cond right Prod.snd Prod.fst) (fun _ => rfl)
    (fun _ _ _ _ _ => trivial) depth hp
  simpa only [cond_false, cond_true, ha, hb] using he

/-- A replaced operator has its template found and compiled already, and both nodes then meet the
limit at the same depth. -/
lemma alike_of_expands {e e' : Expr} (h : e.Expands r.dialect e') (depth : Nat) :
    (r.outcome e depth).Alike (r.outcome e' depth) := by
  induction e generalizing e' depth with
  | constant type value =>
    cases h
    exact .refl _
  | path type path =>
    cases h
    exact .refl _
  | template type t as ih =>
    cases h with
    | template _ _ args =>
      rw [outcome_template, outcome_template]
      exact r.alike_expand t args (fun a mem b hab => ih a mem hab) depth
  | operation type f as ih =>
    cases h with
    | expand _ other found compiled args =>
      rw [outcome_operation_of_compile found compiled, outcome_template]
      exact r.alike_expand _ args (fun a mem b hab => ih a mem hab) depth
    | operation _ _ args =>
      cases hf : r.dialect f with
      | none =>
        rw [outcome_operation_of_missing hf, outcome_operation_of_missing hf]
        exact .refl _
      | some pattern =>
        cases hc : Template.compile pattern with
        | error e =>
          rw [outcome_operation_of_malformed hf hc, outcome_operation_of_malformed hf hc]
          exact .refl _
        | ok t =>
          rw [outcome_operation_of_compile hf hc, outcome_operation_of_compile hf hc]
          exact r.alike_expand t args (fun a mem b hab => ih a mem hab) depth

/-- Operators and the templates of their patterns are two routes to one statement: replacing some of
one by the other changes neither the text nor the constants nor the failure, whatever the options
and whatever the two stores hold. -/
theorem statement_eq_of_expands {e e' : Expr} (h : e.Expands r.dialect e')
    {store store' : TemplateStore} (hs : store.Reachable) (hs' : store'.Reachable) :
    (r.statement e store).1 = (r.statement e' store').1 := by
  rw [hs.statement_fst, hs'.statement_fst]
  exact (r.alike_of_expands h 0).statement_eq

/-- The inner one of two operators is replaced, and the second store holds its pattern already. On
both sides a path is lowered and a constant bound, and a limit of one stops both at the inner node.
-/
theorem statement_eq_of_expands_inner :
    let dialect : Dialect := fun _ => some "{0l} <> {1}"
    let r : Renderer := ⟨dialect, { depthLimit := some 2 }⟩
    let shallow : Renderer := ⟨dialect, { depthLimit := some 1 }⟩
    let args := [Expr.path .string ⟨["T", "Name"]⟩, Expr.constant .string (.string "x")]
    let t : Template := ⟨"{0l} <> {1}",
      [⟨.argument 0 .lower, ⟨0, 4⟩⟩, ⟨.text " <> ", ⟨4, 8⟩⟩, ⟨.argument 1 .keep, ⟨8, 11⟩⟩]⟩
    let e := Expr.operation .boolean Builtin.ne.toOperator
      [.operation .boolean Builtin.like.toOperator args, .path .any ⟨["N"]⟩]
    let e' := Expr.operation .boolean Builtin.ne.toOperator
      [.template .any t args, .path .any ⟨["N"]⟩]
    let store := TemplateStore.empty 0
    let store' := (TemplateStore.compile "{0l} <> {1}" store).2
    e.Expands dialect e' ∧ store.Reachable ∧ store'.Reachable ∧
      (r.statement e store).1 = .ok ⟨"t.name <> ? <> N", [.string "x"]⟩ ∧
      (r.statement e' store').1 = .ok ⟨"t.name <> ? <> N", [.string "x"]⟩ ∧
      (shallow.statement e store).1 = .error (.render { fault := .depthLimit 1 }) ∧
      (shallow.statement e' store').1 = .error (.render { fault := .depthLimit 1 }) := by
  intro dialect r shallow args t e e' store store'
  have hc : Template.compile "{0l} <> {1}" = .ok t := by decide +kernel
  have same : List.Forall₂ (Expr.Expands dialect) args args :=
    .cons (.path .string _) (.cons (.constant .string _) .nil)
  have h : e.Expands dialect e' :=
    .operation .boolean _ (.cons (.expand .boolean .any rfl hc same) (.cons (.path .any _) .nil))
  have hs : store.Reachable := .empty 0
  have hs' : store'.Reachable := .compile "{0l} <> {1}" hs
  have text : (r.statement e store).1 = .ok ⟨"t.name <> ? <> N", [.string "x"]⟩ := by
    decide +kernel
  have stopped : (shallow.statement e store).1 =
      .error (.render { fault := .depthLimit 1 }) := by
    decide +kernel
  exact ⟨h, hs, hs', text, (r.statement_eq_of_expands h hs hs').symm.trans text, stopped,
    (shallow.statement_eq_of_expands h hs hs').symm.trans stopped⟩

end Renderer

end QueryDialect
