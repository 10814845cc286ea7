import QueryDialect.Proofs.Builders
import QueryDialect.Proofs.DepthLimit

/-!
# Built terms

A term that is made with the builders alone applies every operator to as many arguments as its
builder takes. So a dialect whose patterns ask for no more arguments than that can express the term:
no rendering of it fails, unless it is nested deeper than a limit allows.
-/
namespace QueryDialect

open QueryDialect.Expr (Within)

/-- The terms that builders make from typed constants and paths. -/
inductive Term.Built : {τ : ResultType} → Term τ → Prop
  | leaf {τ : ResultType} {t : Term τ} (h : t.Leaf) : Built t
  | unary {τ ρ : ResultType} {a : Term τ} {t : Term ρ} (step : a.Unary t) (operand : Built a) :
      Built t
  | binary {τ ρ : ResultType} {a b : Term τ} {t : Term ρ} (step : a.Binary b t) (left : Built a)
      (right : Built b) : Built t

/-- Every node is a leaf or an operator over as many arguments as the builders give it. -/
def Expr.Saturated (e : Expr) : Prop :=
  ∀ s, Within s e → s.plainText? ≠ none ∨
    ∃ type f args, s = .operation type f args ∧ args.length = Builtin.arity f

namespace Expr

lemma saturated_constant (type : ResultKind) (value : Value) : (constant type value).Saturated := by
  intro s within
  rw [within_constant.1 within]
  exact .inl nofun

lemma saturated_path (type : ResultKind) (path : Path) : (Expr.path type path).Saturated := by
  intro s within
  rw [within_path.1 within]
  exact .inl nofun

lemma saturated_operation (type : ResultKind) {f : Operator} {args : List Expr}
    (length : args.length = Builtin.arity f) (h : ∀ a ∈ args, a.Saturated) :
    (operation type f args).Saturated := by
  intro s within
  rcases within_operation.1 within with rfl | ⟨a, mem, within⟩
  · exact .inr ⟨type, f, args, rfl, length⟩
  · exact h a mem s within

end Expr

namespace Term

variable {τ : ResultType}

lemma AppliesTo.saturated {t : Term τ} {operands : List Expr} (h : t.AppliesTo operands)
    (saturated : ∀ a ∈ operands, a.Saturated) : t.expr.Saturated := by
  obtain ⟨f, rfl, length, -⟩ := h
  exact Expr.saturated_operation τ.kind length saturated

lemma Built.saturated {t : Term τ} (h : t.Built) : t.expr.Saturated := by
  induction h with
  | leaf h =>
    obtain ⟨value, expr⟩ | ⟨p, expr⟩ := h.cases_expr
    · rw [expr]
      exact Expr.saturated_constant _ _
    · rw [expr]
      exact Expr.saturated_path _ _
  | unary step _ operand => exact step.appliesTo.saturated (by simpa using operand)
  | binary step _ _ left right => exact step.appliesTo.saturated (by simpa using ⟨left, right⟩)

end Term

/-- The dialect has a pattern for the operator that compiles and asks for no argument beyond so
many. -/
def Dialect.Serves (dialect : Dialect) (f : Operator) (count : Nat) : Prop :=
  ∃ pattern t, dialect f = some pattern ∧ Template.compile pattern = .ok t ∧
    ∀ x ∈ t.elements, ∀ index modifier, x.content = .argument index modifier → index < count

lemma Visits.within {dialect : Dialect} {e s : Expr} {place : Place} (h : Visits dialect e place s) :
    Within s e := by
  induction h with
  | root e => exact .self
  | arg _ _ found _ ih => exact .arg (List.mem_of_getElem? found) ih

namespace Renderer

variable {r : Renderer}

/-- A node that is served as far as its arguments go can only be too deep. -/
lemma NodeFault.eq_tooDeep {s : Expr} {depth : Nat} {place : Place} {stage : Stage}
    {failure : Failure} (fault : r.NodeFault depth s place stage failure)
    (served : ∀ type f args, s = .operation type f args → r.dialect.Serves f args.length)
    (saturated : s.plainText? ≠ none ∨ ∃ type f args, s = .operation type f args) :
    ∃ limit, r.options.depthLimit = some limit ∧ failure = tooDeep limit := by
  rcases saturated with leaf | ⟨type, f, args, rfl⟩
  · obtain ⟨text, leaf⟩ := Option.ne_none_iff_exists'.1 leaf
    exact absurd fault (NodeFault.not_of_leaf leaf)
  obtain ⟨pattern, t, found, compiled, within⟩ := served type f args rfl
  cases fault with
  | argument template placeholder missing =>
    obtain rfl := Option.some.inj
      (template.symm.trans (Expr.template?_of_compile found compiled type args))
    have inside := within _ (List.mem_of_getElem? placeholder) _ _ rfl
    exact absurd inside (Nat.not_lt_of_le missing)
  | pattern _ _ missing => simp [missing] at found
  | compilation _ _ found' malformed =>
    obtain rfl := Option.some.inj (found.symm.trans found')
    simp [malformed] at compiled
  | depth _ limited _ => exact ⟨_, limited, rfl⟩

/-- A term that is made with the builders alone has a statement in every dialect that serves its
operators as the builders use them, whatever the store holds and however constants are shown. Under
a limit it can fail only because it is nested too deep. -/
theorem statement_of_built (r : Renderer) {τ : ResultType} {t : Term τ} (built : t.Built)
    (serves : ∀ type f args, Within (.operation type f args) t.expr →
      r.dialect.Serves f (Builtin.arity f))
    {store : TemplateStore} (hs : store.Reachable) :
    (r.options.depthLimit = none → ∃ s, (r.statement t.expr store).1 = .ok s) ∧
    ∀ limit, r.options.depthLimit = some limit →
      ∀ failure, (r.statement t.expr store).1 = .error failure → failure = tooDeep limit := by
  have fails {failure : Failure} (h : (r.statement t.expr store).1 = .error failure) :
      ∃ limit, r.options.depthLimit = some limit ∧ failure = tooDeep limit := by
    obtain ⟨_, stage, ⟨outer, s, inner, -, visited, fault⟩, -⟩ := (statement_eq_error_iff hs).1 h
    have shape := built.saturated s visited.within
    refine fault.eq_tooDeep (fun type f args same => ?_) (shape.imp_right ?_)
    · obtain leaf | ⟨_, _, _, same', length⟩ := shape
      · rw [same] at leaf
        exact absurd rfl leaf
      · rw [same] at same'
        cases same'
        rw [length]
        exact serves type f args (same ▸ visited.within)
    · rintro ⟨type, f, args, same, -⟩
      exact ⟨type, f, args, same⟩
  refine ⟨fun unlimited => ?_, fun limit limited failure h => ?_⟩
  · cases h : (r.statement t.expr store).1 with
    | ok s => exact ⟨s, rfl⟩
    | error failure =>
      obtain ⟨limit, limited, -⟩ := fails h
      rw [unlimited] at limited
      cases limited
  · obtain ⟨other, limited', same⟩ := fails h
    obtain rfl := Option.some.inj (limited.symm.trans limited')
    exact same

/-- One pattern swaps its operands, and another one does not show its operand at all. A limit of two
cuts the three operators off, and a limit of three does not. -/
theorem statement_of_built_swapped :
    let table := ((PatternTable.empty.add "EQ" "{1s} = {0}").add "NOT" "not {0}").add "UPPER" "?"
    let r : Renderer := ⟨table.byName, {}⟩
    let t := ((Term.ofPath .string ⟨["Name"]⟩).upper.eq (Term.ofString "ACME")).not
    let store := TemplateStore.empty 0
    t.Built ∧ store.Reachable ∧
      (∀ type f args, Within (.operation type f args) t.expr →
        r.dialect.Serves f (Builtin.arity f)) ∧
      (∃ s, (r.statement t.expr store).1 = .ok s ∧ s = ⟨"not ACME = ?", []⟩) ∧
      (∃ failure, ((r.withLimit (some 2)).statement t.expr store).1 = .error failure ∧
        failure = tooDeep 2) ∧
      ((r.withLimit (some 3)).statement t.expr store).1 = .ok ⟨"not ACME = ?", []⟩ := by
  intro table r t store
  have hs : store.Reachable := .empty 0
  have name : (Term.ofPath .string ⟨["Name"]⟩).upper.Built :=
    .unary (.upper _) (.leaf (.ofPath _ _))
  have built : t.Built := .unary (.not _) (.binary (.eq _ _) name (.leaf (.ofString "ACME")))
  have equal : r.dialect.Serves Builtin.eq.toOperator 2 :=
    ⟨"{1s} = {0}", ⟨"{1s} = {0}", [⟨.argument 1 .plain, ⟨0, 4⟩⟩, ⟨.text " = ", ⟨4, 7⟩⟩,
      ⟨.argument 0 .keep, ⟨7, 10⟩⟩]⟩, rfl, by decide +kernel, by simp⟩
  have negated : r.dialect.Serves Builtin.not.toOperator 1 :=
    ⟨"not {0}", ⟨"not {0}", [⟨.text "not ", ⟨0, 4⟩⟩, ⟨.argument 0 .keep, ⟨4, 7⟩⟩]⟩, rfl,
      by decide +kernel, by simp⟩
  have raised : r.dialect.Serves Builtin.upper.toOperator 1 :=
    ⟨"?", ⟨"?", [⟨.text "?", ⟨0, 1⟩⟩]⟩, rfl, by decide +kernel, by simp⟩
  have serves : ∀ type f args, Within (.operation type f args) t.expr →
      r.dialect.Serves f (Builtin.arity f) := by
    intro type f args within
    have applied : t.expr.Applies f := ⟨type, args, within⟩
    obtain rfl | rfl | rfl : f = Builtin.not.toOperator ∨ f = Builtin.eq.toOperator ∨
        f = Builtin.upper.toOperator := by
      simpa [t, Term.not, Term.eq, Term.upper, Term.unary, Term.binary, Term.apply, Term.ofPath,
        Term.ofString] using applied
    · exact negated
    · exact equal
    · exact raised
  have written : (r.statement t.expr store).1 = .ok ⟨"not ACME = ?", []⟩ := by decide +kernel
  have reached : ((r.withLimit (some 3)).statement t.expr store).1 =
      .ok ⟨"not ACME = ?", []⟩ := by decide +kernel
  have cut : ((r.withLimit (some 2)).statement t.expr store).1.isOk = false := by decide +kernel
  obtain ⟨s, made⟩ := (r.statement_of_built built serves hs).1 rfl
  refine ⟨built, hs, serves, ⟨s, made, Except.ok.inj (made.symm.trans written)⟩, ?_, reached⟩
  cases failed : ((r.withLimit (some 2)).statement t.expr store).1 with
  | ok s =>
    rw [failed] at cut
    cases cut
  | error failure =>
    exact ⟨failure, rfl,
      ((r.withLimit (some 2)).statement_of_built built serves hs).2 2 rfl failure failed⟩

end Renderer

end QueryDialect
