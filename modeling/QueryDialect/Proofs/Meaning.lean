import QueryDialect.Proofs.Outcome
import QueryDialect.Proofs.StoreConsistency
import QueryDialect.Proofs.Subexpression
import QueryDialect.Statement

/-!
# The meaning of an expression

The outcome of an expression is put together from the outcomes of its arguments; the only thing it
takes from its surroundings is how deep it stands. The renderer, which carries its state through the
whole tree, does to any progress what the outcome says.
-/
namespace QueryDialect

namespace Renderer

variable (r : Renderer)

def constantOutcome (value : Value) : Outcome String :=
  if r.options.inlineConstants then pure value.literal else ⟨.ok r.options.marker, [value], []⟩

def compileOutcome (pattern : String) : Outcome Template :=
  ⟨(Template.compile pattern).mapError .compile, [], [pattern]⟩

def templateOutcome (f : Operator) : Outcome Template :=
  match r.dialect f with
  | none => .fail { fault := .missingTemplate f.name }
  | some pattern => compileOutcome pattern

/-- The limit, if there is one that forbids another level at this depth. -/
def limitReached? (depth : Nat) : Option Nat := r.options.depthLimit.filter (· ≤ depth)

lemma limitReached?_of_unlimited {r : Renderer} (h : r.options.depthLimit = none) (depth : Nat) :
    r.limitReached? depth = none := by
  rw [limitReached?, h]
  rfl

lemma limitReached?_eq_some_iff {depth limit : Nat} :
    r.limitReached? depth = some limit ↔ r.options.depthLimit = some limit ∧ limit ≤ depth := by
  simp [limitReached?, Option.filter_eq_some_iff]

def expandOutcome (t : Template) (args : List (TextForm → Nat → Outcome String)) (depth : Nat) :
    Outcome String :=
  match r.limitReached? depth with
  | some limit => .fail { fault := .depthLimit limit }
  | none => t.renderWith args .fail fun arg form => arg form (depth + 1)

def argOutcome (e : Expr) (usual : Nat → Outcome String) (form : TextForm) (depth : Nat) :
    Outcome String :=
  match form, e.plainText? with
  | .plain, some text => pure text
  | _, _ => usual depth

mutual

def outcome : Expr → Nat → Outcome String
  | .constant _ value, _ => r.constantOutcome value
  | .path _ path, _ => pure path.display
  | .operation _ f args, depth => do
    let t ← r.templateOutcome f
    r.expandOutcome t (argOutcomes args) depth
  | .template _ t args, depth => r.expandOutcome t (argOutcomes args) depth

def argOutcomes : List Expr → List (TextForm → Nat → Outcome String)
  | [] => []
  | e :: es => argOutcome e (outcome e) :: argOutcomes es

end

lemma outcome_constant (type : ResultKind) (value : Value) :
    r.outcome (.constant type value) = fun _ => r.constantOutcome value := by
  funext depth
  rw [outcome]

lemma outcome_path (type : ResultKind) (path : Path) :
    r.outcome (.path type path) = fun _ => pure path.display := by
  funext depth
  rw [outcome]

lemma outcome_operation (type : ResultKind) (f : Operator) (args : List Expr) :
    r.outcome (.operation type f args) =
      fun depth => r.templateOutcome f >>= fun t => r.expandOutcome t (r.argOutcomes args) depth := by
  funext depth
  rw [outcome]

/-! An operation is decided in the order look-up, compilation, template. -/

lemma outcome_operation_of_missing {r : Renderer} {f : Operator} (h : r.dialect f = none)
    (type : ResultKind) (args : List Expr) (depth : Nat) :
    r.outcome (.operation type f args) depth = .fail { fault := .missingTemplate f.name } := by
  rw [outcome_operation, templateOutcome, h]
  exact Outcome.bind_of_error rfl _

lemma outcome_operation_of_malformed {r : Renderer} {f : Operator} {pattern : String}
    {e : PatternError} (h : r.dialect f = some pattern) (hc : Template.compile pattern = .error e)
    (type : ResultKind) (args : List Expr) (depth : Nat) :
    r.outcome (.operation type f args) depth = .asking pattern ⟨.error (.compile e), [], []⟩ := by
  have ho : (compileOutcome pattern).result = .error (.compile e) := by
    simp [compileOutcome, hc, Except.mapError]
  rw [outcome_operation, templateOutcome, h]
  exact Outcome.bind_of_error ho _

lemma outcome_operation_of_compile {r : Renderer} {f : Operator} {pattern : String} {t : Template}
    (h : r.dialect f = some pattern) (hc : Template.compile pattern = .ok t) (type : ResultKind)
    (args : List Expr) (depth : Nat) :
    r.outcome (.operation type f args) depth =
      .asking pattern (r.expandOutcome t (r.argOutcomes args) depth) := by
  have ho : (compileOutcome pattern).result = .ok t := by
    simp [compileOutcome, hc, Except.mapError]
  rw [outcome_operation, templateOutcome, h]
  exact Outcome.bind_of_ok ho _

lemma outcome_template (type : ResultKind) (t : Template) (args : List Expr) :
    r.outcome (.template type t args) = r.expandOutcome t (r.argOutcomes args) := by
  funext depth
  rw [outcome]

lemma argOutcomes_eq_map (args : List Expr) :
    r.argOutcomes args = args.map fun e => argOutcome e (r.outcome e) := by
  induction args with
  | nil => rw [argOutcomes, List.map_nil]
  | cons e es ih => rw [argOutcomes, ih, List.map_cons]

def outcomeAs (e : Expr) (form : TextForm) (depth : Nat) : Outcome String :=
  argOutcome e (r.outcome e) form depth

lemma outcomeAs_of_leaf {e : Expr} {text : String} (h : e.plainText? = some text) (depth : Nat) :
    r.outcomeAs e .plain depth = pure text := by
  simp only [outcomeAs, argOutcome, h]

lemma outcomeAs_of_inner {e : Expr} (h : e.plainText? = none) (form : TextForm) (depth : Nat) :
    r.outcomeAs e form depth = r.outcome e depth := by
  cases form <;> simp only [outcomeAs, argOutcome, h]

/-- For all renderers at once, an argument is a plain text or it is rendered as usual. -/
lemma outcomeAs_cases (e : Expr) (form : TextForm) :
    (∃ text, e.plainText? = some text ∧ ∀ (r : Renderer) depth, r.outcomeAs e form depth = pure text) ∨
      ∀ (r : Renderer) depth, r.outcomeAs e form depth = r.outcome e depth := by
  cases form with
  | usual => exact .inr fun _ _ => rfl
  | plain =>
    cases leaf : e.plainText? with
    | none => exact .inr fun r depth => r.outcomeAs_of_inner leaf .plain depth
    | some text => exact .inl ⟨text, rfl, fun r depth => r.outcomeAs_of_leaf leaf depth⟩

/-- A node whose depth is allowed is its template over the outcomes of its arguments. -/
lemma expandOutcome_args (t : Template) (args : List Expr) (depth : Nat) :
    r.expandOutcome t (r.argOutcomes args) depth =
      match r.limitReached? depth with
      | some limit => .fail { fault := .depthLimit limit }
      | none => t.renderWith args .fail fun e form => r.outcomeAs e form (depth + 1) := by
  rw [argOutcomes_eq_map]
  unfold expandOutcome
  split
  · rfl
  · rw [Template.renderWith_map]
    rfl

end Renderer

/-- Renderers with one limit expand one template; its arguments may depend on the renderer. -/
lemma Outcome.Compositional.expand {α ι : Type} {admits : Modifier → Prop}
    {P : (ι → Outcome String) → Prop} (h : Compositional admits P) {r : ι → Renderer}
    {limit : Option Nat} (hl : ∀ i, (r i).options.depthLimit = limit) {t : Template}
    (ht : ∀ x ∈ t.elements, ∀ index modifier, x.content = .argument index modifier →
      admits modifier)
    {args : List α} {g : ι → α → Expr} (depth : Nat)
    (ha : ∀ a ∈ args, ∀ form, P fun i => (r i).outcomeAs (g i a) form (depth + 1)) :
    P fun i => (r i).expandOutcome t ((r i).argOutcomes (args.map (g i))) depth := by
  have hs (i : ι) : (r i).limitReached? depth = limit.filter (· ≤ depth) := by
    rw [Renderer.limitReached?, hl]
  simp only [Renderer.expandOutcome_args, hs, Template.renderWith_map]
  cases limit.filter (· ≤ depth) with
  | some limit => exact h.fault _
  | none => exact h.renderWith ht ha

/-- The progress once a step with this outcome is done. -/
def Progress.after {α : Type} (p : Progress) (o : Outcome α) : Progress :=
  ⟨p.store.compileAll o.patterns, p.bound ++ o.constants, p.depth⟩

namespace Progress

variable {α β : Type}

@[simp] lemma after_pure (p : Progress) (a : α) : p.after (pure a) = p := by
  simp [after, Outcome.pure_def]

lemma after_bind_of_ok (p : Progress) {x : Outcome α} {a : α} (h : x.result = .ok a)
    (f : α → Outcome β) : p.after (x >>= f) = (p.after x).after (f a) := by
  simp [after, Outcome.bind_of_ok h, TemplateStore.compileAll_append]

lemma after_bind_of_error (p : Progress) {x : Outcome α} {failure : Failure}
    (h : x.result = .error failure) (f : α → Outcome β) : p.after (x >>= f) = p.after x := by
  simp [after, Outcome.bind_of_error h]

lemma consistent_after {p : Progress} (h : p.store.Consistent) (o : Outcome α) :
    (p.after o).store.Consistent := h.compileAll o.patterns

end Progress

lemma Rendering.get_bind_run {β : Type} (next : Progress → Rendering β) (p : Progress) :
    ((get : Rendering Progress) >>= next) p = next p p := bind_run_of_ok rfl next

/-- A step realizes an outcome if it does to every progress with a consistent store what the outcome
for its depth says. -/
def Rendering.Realizes {α : Type} (step : Rendering α) (outcome : Nat → Outcome α) : Prop :=
  ∀ p : Progress, p.store.Consistent → step p = ((outcome p.depth).result, p.after (outcome p.depth))

namespace Rendering.Realizes

variable {α β : Type}

lemma pure (a : α) : Realizes (pure a) fun _ => pure a := by
  intro p _
  rw [Progress.after_pure]
  rfl

lemma fail (error : RenderingError) :
    Realizes (Renderer.fail error : Rendering α) fun _ => .fail error := by
  intro p _
  simp [Progress.after, Outcome.fail]
  rfl

lemma bind {step : Rendering α} {x : Nat → Outcome α} {next : α → Rendering β}
    {f : α → Nat → Outcome β} (hs : Realizes step x) (hn : ∀ a, Realizes (next a) (f a)) :
    Realizes (step >>= next) fun depth => x depth >>= fun a => f a depth := by
  intro p hp
  beta_reduce
  have hr := hs p hp
  cases hx : (x p.depth).result with
  | error failure =>
    rw [hx] at hr
    rw [bind_run_of_error hr, Progress.after_bind_of_error p hx, Outcome.bind_of_error hx]
  | ok a =>
    rw [hx] at hr
    -- the second step starts where the first one ends, at the same depth
    rw [bind_run_of_ok hr, Progress.after_bind_of_ok p hx, Outcome.bind_of_ok hx]
    exact hn a _ (Progress.consistent_after hp _)

lemma nested {step : Rendering α} {x : Nat → Outcome α} (h : Realizes step x) :
    Realizes (Renderer.nested step) fun depth => x (depth + 1) := by
  intro p hp
  unfold Renderer.nested
  rw [h { p with depth := p.depth + 1 } hp]
  rfl

lemma renderAll {render : Element → Rendering String} {out : Element → Nat → Outcome String}
    (h : ∀ element, Realizes (render element) (out element)) (elements : List Element) :
    Realizes (Template.renderAll render elements)
      fun depth => Template.renderAll (fun element => out element depth) elements := by
  induction elements with
  | nil => exact pure ""
  | cons element rest ih => exact (h element).bind fun head => ih.bind fun tail => pure _

lemma renderWith (t : Template) {args : List α} {textOf : α → TextForm → Rendering String}
    {out : α → TextForm → Nat → Outcome String}
    (h : ∀ a ∈ args, ∀ form, Realizes (textOf a form) (out a form)) :
    Realizes (t.renderWith args Renderer.fail textOf)
      fun depth => t.renderWith args .fail fun a form => out a form depth := by
  simp only [Template.renderWith_eq_renderAll]
  refine renderAll (fun element => ?_) t.elements
  obtain ⟨content, span⟩ := element
  cases content with
  | text verbatim => exact pure verbatim
  | argument index modifier =>
    simp only [Template.renderElement]
    cases found : args[index]? with
    | none => exact fail _
    | some a => exact (h a (List.mem_of_getElem? found) _).bind fun text => pure _

end Rendering.Realizes

namespace Renderer

open Rendering (Realizes)

variable (r : Renderer)

lemma realizes_constant (value : Value) :
    Realizes (r.renderConstant value) fun _ => r.constantOutcome value := by
  intro p _
  unfold renderConstant constantOutcome
  split
  · exact Realizes.pure _ p ‹_›
  · rfl

lemma realizes_compile (pattern : String) :
    Realizes (compile pattern) fun _ => compileOutcome pattern := by
  intro p hp
  have hc := hp.compile_result pattern
  unfold compile compileOutcome
  rw [← hc]
  split
  all_goals
    rename_i eq
    simp [Progress.after, TemplateStore.compileAll, eq, Except.map, Except.mapError]

lemma realizes_template (f : Operator) :
    Realizes (r.templateFor f) fun _ => r.templateOutcome f := by
  unfold templateFor templateOutcome
  cases r.dialect f with
  | none => exact Realizes.fail _
  | some pattern => exact realizes_compile pattern

lemma realizes_arg {e : Expr} (h : Realizes (r.renderExpr e) (r.outcome e)) (form : TextForm) :
    Realizes (renderArg e (r.renderExpr e) form) (r.outcomeAs e form) := by
  unfold outcomeAs
  cases form with
  | usual => exact h
  | plain =>
    cases hp : e.plainText? with
    | none => simpa only [renderArg, argOutcome, hp] using h
    | some text => simpa only [renderArg, argOutcome, hp] using Realizes.pure text

lemma realizes_expand (t : Template) {args : List Expr}
    (h : ∀ e ∈ args, Realizes (r.renderExpr e) (r.outcome e)) :
    Realizes (r.expand t (r.renderArgs args)) (r.expandOutcome t (r.argOutcomes args)) := by
  have hn := (Realizes.renderWith t fun e he form => r.realizes_arg (h e he) form).nested
  intro p hp
  rw [expandOutcome_args, renderArgs_eq_map]
  unfold expand
  rw [Template.renderWith_map]
  cases ho : r.options.depthLimit with
  | none =>
    rw [limitReached?_of_unlimited ho]
    exact hn p hp
  | some limit =>
    dsimp only
    rw [Rendering.get_bind_run]
    by_cases hl : limit ≤ p.depth
    · have hf := Realizes.fail (α := String) { fault := .depthLimit limit } p hp
      rw [if_pos hl, r.limitReached?_eq_some_iff.2 ⟨ho, hl⟩]
      exact (bind_run_of_error rfl _).trans hf
    · have hu : r.limitReached? p.depth = none := by simpa [limitReached?, ho] using hl
      rw [if_neg hl, hu]
      exact hn p hp

/-- The renderer does what the outcome says, to any progress with a consistent store. -/
theorem realizes_outcome (e : Expr) : Realizes (r.renderExpr e) (r.outcome e) := by
  induction e with
  | constant type value =>
    rw [renderExpr, outcome_constant]
    exact r.realizes_constant value
  | path type path =>
    rw [renderExpr, outcome_path]
    exact Realizes.pure _
  | operation type f args ih =>
    rw [renderExpr, outcome_operation]
    exact (r.realizes_template f).bind fun t => r.realizes_expand t ih
  | template type t args ih =>
    rw [renderExpr, outcome_template]
    exact r.realizes_expand t ih

end Renderer

/-- The statement of an outcome: its text with everything that was bound. -/
def Outcome.statement (o : Outcome String) : Except Failure Statement :=
  o.result.map fun text => ⟨text, o.constants⟩

lemma Outcome.statement_of_ok {x : Outcome String} {text : String} (h : x.result = .ok text) :
    x.statement = .ok ⟨text, x.constants⟩ := by
  rw [statement, h]
  rfl

lemma Outcome.statement_of_error {x : Outcome String} {failure : Failure}
    (h : x.result = .error failure) : x.statement = .error failure := by
  rw [statement, h]
  rfl

lemma Outcome.statement_eq_ok_iff {x : Outcome String} {s : Statement} :
    x.statement = .ok s ↔ x.result = .ok s.text ∧ x.constants = s.constants := by
  obtain ⟨text, constants⟩ := s
  cases h : x.result with
  | error failure => simp [statement_of_error h]
  | ok found => simp [statement_of_ok h]

lemma Outcome.statement_eq_error_iff {x : Outcome String} {failure : Failure} :
    x.statement = .error failure ↔ x.result = .error failure := by
  cases h : x.result with
  | error other => simp [statement_of_error h]
  | ok found => simp [statement_of_ok h]

lemma Outcome.Alike.statement_eq {x y : Outcome String} (h : x.Alike y) :
    x.statement = y.statement := by
  rw [statement, statement, h.1, h.2]

lemma Renderer.finish_snd (r : Renderer) (e : Expr) (p : Progress) :
    (r.finish e p).2 = (r.renderExpr e p).2.store := by
  unfold finish
  split
  · simp_all
  · simp_all

theorem Renderer.statement_eq (r : Renderer) (e : Expr) {store : TemplateStore}
    (h : store.Consistent) :
    r.statement e store =
      ((r.outcome e 0).statement, store.compileAll (r.outcome e 0).patterns) := by
  have hr := r.realizes_outcome e (.start store) h
  simp only [Progress.start, Progress.after, List.nil_append] at hr
  unfold statement finish Outcome.statement Progress.start
  rw [hr]
  cases (r.outcome e 0).result <;> rfl

namespace TemplateStore

/-- The stores a session can come to: those it starts with, and what compiling, clearing and
rendering anything make of them. -/
inductive Reachable : TemplateStore → Prop
  | empty (identity : Nat) : Reachable (empty identity)
  | compile {store : TemplateStore} (pattern : String) (prior : Reachable store) :
      Reachable (compile pattern store).2
  | clear {store : TemplateStore} (prior : Reachable store) : Reachable store.clear
  | render {p : Progress} (r : Renderer) (e : Expr) (prior : Reachable p.store) :
      Reachable (r.renderExpr e p).2.store

theorem Reachable.consistent {store : TemplateStore} (h : Reachable store) : store.Consistent := by
  induction h with
  | empty identity => exact consistent_empty identity
  | compile pattern _ ih => exact ih.compile pattern
  | clear _ _ => exact Consistent.clear _
  | render r e _ ih =>
    rw [r.realizes_outcome e _ ih]
    exact ih.compileAll _

/-- What a store holds never shows in a statement. -/
lemma Reachable.statement_fst {store : TemplateStore} (h : Reachable store) (r : Renderer)
    (e : Expr) : (r.statement e store).1 = (r.outcome e 0).statement := by
  rw [r.statement_eq e h.consistent]

lemma Reachable.statement {store : TemplateStore} (h : Reachable store) (r : Renderer) (e : Expr) :
    Reachable (r.statement e store).2 := by
  rw [Renderer.statement, r.finish_snd]
  exact .render r e h

end TemplateStore

end QueryDialect
