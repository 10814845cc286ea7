import Mathlib.Data.List.Basic
import QueryDialect.Proofs.Meaning

/-!
# Composition of statements

Without a limit, the statement of a node is put together from the statements its arguments have on
their own. Each element of the template adds its part: a text as it stands, or what its placeholder
makes of the argument.
-/
namespace QueryDialect

/-- What a placeholder makes of its argument, given the statement of the argument on its own. A leaf
that is asked for its plain text is not rendered, so nothing of it is bound. -/
def Modifier.part : Modifier → Expr → Statement → Statement
  | .plain, .constant _ value, _ => ⟨value.display, []⟩
  | .plain, .path _ path, _ => ⟨path.display, []⟩
  | modifier, _, alone => ⟨modifier.apply alone.text, alone.constants⟩

/-- The part of an element; an argument that is not there has none. -/
def Element.part (args : List Expr) (alone : Nat → Statement) (x : Element) : Statement :=
  match x.content with
  | .text verbatim => ⟨verbatim, []⟩
  | .argument index modifier =>
    match args[index]? with
    | some a => modifier.part a (alone index)
    | none => ⟨"", []⟩

/-- The texts one after another, and the constants likewise. -/
def Statement.join (parts : List Statement) : Statement :=
  ⟨String.join (parts.map Statement.text), parts.flatMap Statement.constants⟩

/-- The node is rendered by this template over these arguments: its own, or the one that the pattern
of its operator compiles to. -/
inductive Renderer.RendersBy (r : Renderer) : Expr → Template → List Expr → Prop
  | operation {f : Operator} {pattern : String} {t : Template} (type : ResultKind)
      (args : List Expr) (found : r.dialect f = some pattern)
      (compiled : Template.compile pattern = .ok t) : RendersBy r (.operation type f args) t args
  | template (type : ResultKind) (t : Template) (args : List Expr) :
      RendersBy r (.template type t args) t args

namespace Renderer

variable {r : Renderer}

lemma RendersBy.alike {e : Expr} {t : Template} {args : List Expr} (h : r.RendersBy e t args)
    (depth : Nat) : (r.outcome e depth).Alike (r.expandOutcome t (r.argOutcomes args) depth) := by
  cases h with
  | operation type _ found compiled =>
    rw [outcome_operation_of_compile found compiled]
    exact .refl _
  | template type =>
    rw [outcome_template]
    exact .refl _

/-- Without a limit it does not matter how deep an expression stands. -/
lemma outcome_eq_of_unlimited (unlimited : r.options.depthLimit = none) (e : Expr) :
    ∀ depth other, r.outcome e depth = r.outcome e other := by
  have hexpand {args : List Expr} (t : Template)
      (ih : ∀ a ∈ args, ∀ depth other, r.outcome a depth = r.outcome a other) (depth other : Nat) :
      r.expandOutcome t (r.argOutcomes args) depth =
        r.expandOutcome t (r.argOutcomes args) other := by
    rw [expandOutcome_args, expandOutcome_args, limitReached?_of_unlimited unlimited,
      limitReached?_of_unlimited unlimited]
    refine t.renderWith_congr _ fun a mem form => ?_
    unfold outcomeAs argOutcome
    rw [ih a mem (depth + 1) (other + 1)]
  induction e with
  | constant type value =>
    intro depth other
    rw [outcome_constant]
  | path type path =>
    intro depth other
    rw [outcome_path]
  | template type t args ih =>
    rw [outcome_template]
    exact hexpand t ih
  | operation type f args ih =>
    intro depth other
    rw [outcome_operation]
    exact bind_congr fun t => hexpand t ih depth other

/-- A placeholder gets its part from the statement of its argument. -/
lemma statement_map_outcomeAs {a : Expr} {alone : Statement} {depth : Nat}
    (h : (r.outcome a depth).statement = .ok alone) (modifier : Modifier) :
    (modifier.apply <$> r.outcomeAs a modifier.form depth).statement =
      .ok (modifier.part a alone) := by
  have husual : (modifier.apply <$> r.outcome a depth).statement =
      .ok ⟨modifier.apply alone.text, alone.constants⟩ := by
    obtain ⟨hr, hc⟩ := Outcome.statement_eq_ok_iff.1 h
    rw [Outcome.map_eq, Outcome.statement_eq_ok_iff]
    exact ⟨by rw [hr]; rfl, hc⟩
  cases modifier with
  | keep => exact husual
  | lower => exact husual
  | upper => exact husual
  | plain =>
    cases a with
    | constant type value =>
      rw [Modifier.form, outcomeAs_of_leaf r rfl, map_pure]
      rfl
    | path type path =>
      rw [Modifier.form, outcomeAs_of_leaf r rfl, map_pure]
      rfl
    | operation type f args => exact husual
    | template type t args => exact husual

lemma statement_renderElement {t : Template} {args : List Expr} {alone : Nat → Statement}
    {depth : Nat} {x : Element}
    (h : ∀ index modifier, x.content = .argument index modifier →
      ∃ a, args[index]? = some a ∧ (r.outcome a depth).statement = .ok (alone index)) :
    (t.renderElement args .fail (fun a form => r.outcomeAs a form depth) x).statement =
      .ok (x.part args alone) := by
  obtain ⟨content, span⟩ := x
  cases content with
  | text verbatim => rfl
  | argument index modifier =>
    obtain ⟨a, found, hs⟩ := h index modifier rfl
    simp only [Template.renderElement, Element.part, found, bind_pure_comp]
    exact statement_map_outcomeAs hs modifier

lemma statement_expand (unlimited : r.options.depthLimit = none) {t : Template} {args : List Expr}
    {alone : Nat → Statement} (depth : Nat)
    (h : ∀ x ∈ t.elements, ∀ index modifier, x.content = .argument index modifier →
      ∃ a, args[index]? = some a ∧ (r.outcome a (depth + 1)).statement = .ok (alone index)) :
    (r.expandOutcome t (r.argOutcomes args) depth).statement =
      .ok (.join (t.elements.map (Element.part args alone))) := by
  have hx (x : Element) (mem : x ∈ t.elements) :=
    Outcome.statement_eq_ok_iff.1 (statement_renderElement (t := t) (h x mem))
  rw [expandOutcome_args, limitReached?_of_unlimited unlimited]
  dsimp only
  rw [Template.renderWith_eq_renderAll, Outcome.renderAll_of_ok fun x mem => (hx x mem).1,
    Outcome.statement_eq_ok_iff]
  constructor
  · simp [Statement.join, Function.comp_def]
  · rw [Statement.join, List.flatMap_map]
    exact List.flatMap_congr fun x mem => (hx x mem).2

lemma statement_of_node (unlimited : r.options.depthLimit = none) {e : Expr} {t : Template}
    {args : List Expr} (node : r.RendersBy e t args) (alone : Nat → Statement)
    (h : ∀ x ∈ t.elements, ∀ index modifier, x.content = .argument index modifier →
      ∃ a fresh, args[index]? = some a ∧ fresh.Reachable ∧
        (r.statement a fresh).1 = .ok (alone index))
    {store : TemplateStore} (hs : store.Reachable) :
    (r.statement e store).1 = .ok (.join (t.elements.map (Element.part args alone))) := by
  rw [hs.statement_fst, (node.alike 0).statement_eq]
  refine statement_expand unlimited 0 fun x mem index modifier hx => ?_
  obtain ⟨a, fresh, found, hf, hr⟩ := h x mem index modifier hx
  rw [hf.statement_fst, outcome_eq_of_unlimited unlimited a 0 (0 + 1)] at hr
  exact ⟨a, found, hr⟩

/-- The statement of a node from the statements of its arguments, each made on its own from any
store. Only the arguments that placeholders refer to matter: they are the only ones that have to
have statements, and any others can stand in the remaining places. -/
theorem statement_of_arguments (unlimited : r.options.depthLimit = none) {e : Expr} {t : Template}
    {args : List Expr} (node : r.RendersBy e t args) (alone : Nat → Statement)
    (h : ∀ x ∈ t.elements, ∀ index modifier, x.content = .argument index modifier →
      ∃ a fresh, args[index]? = some a ∧ fresh.Reachable ∧
        (r.statement a fresh).1 = .ok (alone index))
    {store : TemplateStore} (hs : store.Reachable) :
    (r.statement e store).1 = .ok (.join (t.elements.map (Element.part args alone))) ∧
    ∀ other others, r.RendersBy other t others →
      (∀ x ∈ t.elements, ∀ index modifier, x.content = .argument index modifier →
        others[index]? = args[index]?) →
      (r.statement other store).1 = (r.statement e store).1 := by
  refine ⟨statement_of_node unlimited node alone h hs, fun other others hother same => ?_⟩
  have hparts : t.elements.map (Element.part others alone) =
      t.elements.map (Element.part args alone) := by
    refine List.map_congr_left fun x mem => ?_
    obtain ⟨content, span⟩ := x
    cases content with
    | text verbatim => rfl
    | argument index modifier => simp only [Element.part, same _ mem index modifier rfl]
  have ho : ∀ x ∈ t.elements, ∀ index modifier, x.content = .argument index modifier →
      ∃ a fresh, others[index]? = some a ∧ fresh.Reachable ∧
        (r.statement a fresh).1 = .ok (alone index) := by
    intro x mem index modifier hx
    rw [same x mem index modifier hx]
    exact h x mem index modifier hx
  rw [statement_of_node unlimited node alone h hs, statement_of_node unlimited hother alone ho hs,
    hparts]

/-- The pattern swaps two arguments and repeats one of them in lower case and as plain text. The
third argument, an operator without a pattern, is not referred to. -/
theorem statement_of_arguments_unused :
    let r : Renderer := ⟨fun _ => none, {}⟩
    let missing := Expr.operation .boolean Builtin.not.toOperator []
    let args := [Expr.path .string ⟨["T", "Name"]⟩, .constant .string (.string "X"), missing]
    let t : Template := ⟨"{1} = {0l}{1s}", [⟨.argument 1 .keep, ⟨0, 3⟩⟩, ⟨.text " = ", ⟨3, 6⟩⟩,
      ⟨.argument 0 .lower, ⟨6, 10⟩⟩, ⟨.argument 1 .plain, ⟨10, 14⟩⟩]⟩
    let store := TemplateStore.empty 0
    (r.statement missing store).1 = .error (.render { fault := .missingTemplate "NOT" }) ∧
      (r.statement (.template .any t args) store).1 = .ok ⟨"? = t.nameX", [.string "X"]⟩ := by
  intro r missing args t store
  have hs : store.Reachable := .empty 0
  have node : r.RendersBy (.template .any t args) t args := .template .any t args
  let alone (index : Nat) : Statement := if index = 0 then ⟨"T.Name", []⟩ else ⟨"?", [.string "X"]⟩
  have h : ∀ x ∈ t.elements, ∀ index modifier, x.content = .argument index modifier →
      ∃ a fresh, args[index]? = some a ∧ fresh.Reachable ∧
        (r.statement a fresh).1 = .ok (alone index) := by
    intro x mem index modifier hx
    have hi : index = 0 ∨ index = 1 := by
      simp only [t, List.mem_cons, List.not_mem_nil, or_false] at mem
      rcases mem with rfl | rfl | rfl | rfl <;> simp_all
    rcases hi with rfl | rfl
    · exact ⟨.path .string ⟨["T", "Name"]⟩, store, rfl, hs, rfl⟩
    · exact ⟨.constant .string (.string "X"), store, rfl, hs, rfl⟩
  have hp : Statement.join (t.elements.map (Element.part args alone)) =
      ⟨"? = t.nameX", [.string "X"]⟩ := by
    decide +kernel
  refine ⟨rfl, ?_⟩
  rw [(statement_of_arguments rfl node alone h hs).1, hp]

end Renderer

end QueryDialect
