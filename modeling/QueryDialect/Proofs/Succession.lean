import QueryDialect.Expr.Term
import QueryDialect.Proofs.BoundConstants

/-!
# Renderings in succession

Expressions that one rendering takes one after another do not disturb each other. Each is rendered
as if it were the only one, and what the rendering has bound is what each of them binds on its own,
as far as it comes.
-/
namespace QueryDialect

namespace Renderer

variable (r : Renderer)

/-- The constants that a new rendering of the expression binds, also on the way to a failure. -/
def collected (e : Expr) : List Value := (r.renderExpr e (.start (.empty 0))).2.bound

/-- A rendering between two expressions, with these constants bound. -/
structure Between (p : Progress) (bound : List Value) : Prop where
  reachable : p.store.Reachable
  bound_eq : p.bound = bound
  depth_eq : p.depth = 0

lemma between_start {store : TemplateStore} (hs : store.Reachable) : Between (.start store) [] :=
  ⟨hs, rfl, rfl⟩

variable {r} {p : Progress} {bound : List Value}

lemma Between.renderExpr_eq (h : Between p bound) (r : Renderer) (e : Expr) :
    r.renderExpr e p = ((r.outcome e 0).result, p.after (r.outcome e 0)) := by
  have realized := r.realizes_outcome e p h.reachable.consistent
  rwa [h.depth_eq] at realized

lemma collected_eq_constants (e : Expr) : r.collected e = (r.outcome e 0).constants := by
  rw [collected, (between_start (.empty 0)).renderExpr_eq]
  rfl

/-- One more expression, whether or not it succeeds. -/
lemma Between.renderExpr (h : Between p bound) (r : Renderer) (e : Expr) :
    Between (r.renderExpr e p).2 (bound ++ r.collected e) := by
  refine ⟨.render r e h.reachable, ?_, ?_⟩
  · rw [h.renderExpr_eq, collected_eq_constants, ← h.bound_eq]
    rfl
  · rw [h.renderExpr_eq]
    exact h.depth_eq

lemma Between.renderExpr_fst (h : Between p bound) (r : Renderer) (e : Expr) {fresh : TemplateStore}
    (hf : fresh.Reachable) : (r.renderExpr e p).1 = (r.renderExpr e (.start fresh)).1 := by
  rw [h.renderExpr_eq, (between_start hf).renderExpr_eq]

lemma Between.renderEach (h : Between p bound) (r : Renderer) (es : List Expr) :
    Between (r.renderEach es p).2 (bound ++ es.flatMap r.collected) := by
  induction es generalizing p bound with
  | nil =>
    rw [List.flatMap_nil, List.append_nil]
    exact h
  | cons e es ih =>
    have rest := ih (h.renderExpr r e)
    rwa [List.append_assoc, ← List.flatMap_cons] at rest

lemma Between.renderEach_fst (h : Between p bound) (r : Renderer) (es : List Expr)
    {fresh : TemplateStore} (hf : fresh.Reachable) :
    (r.renderEach es p).1 = es.map fun e => (r.renderExpr e (.start fresh)).1 := by
  induction es generalizing p bound with
  | nil => rfl
  | cons e es ih =>
    have first := h.renderExpr_fst r e hf
    have rest := ih (h.renderExpr r e)
    rw [List.map_cons, ← first, ← rest]
    rfl

lemma finish_fst (r : Renderer) (e : Expr) (p : Progress) :
    (r.finish e p).1 = (r.renderExpr e p).1.map fun text => ⟨text, (r.renderExpr e p).2.bound⟩ := by
  unfold finish
  split
  all_goals
    rename_i eq
    rw [eq]
    rfl

/-- A last expression adds its constants to those that were bound before. -/
lemma Between.finish_fst (h : Between p bound) (r : Renderer) (e : Expr) {fresh : TemplateStore}
    (hf : fresh.Reachable) :
    (r.finish e p).1 = (r.statement e fresh).1.map fun s => ⟨s.text, bound ++ s.constants⟩ := by
  rw [Renderer.finish_fst, (h.renderExpr r e).bound_eq, h.renderExpr_eq, collected_eq_constants,
    hf.statement_fst]
  cases failed : (r.outcome e 0).result with
  | error failure => rw [Outcome.statement_of_error failed]; rfl
  | ok text => rw [Outcome.statement_of_ok failed]; rfl

/-- Expressions in succession: each comes to the text or the failure that it comes to on its own, and
afterwards the depth is that of the start. The last one has the statement that it has on its own,
with all constants of the earlier ones in front of its constants. An expression that fails leaves
behind exactly those of its constants that stand in front of the first violation. -/
theorem rendered_in_succession (r : Renderer) (es : List Expr) (e : Expr)
    {store fresh : TemplateStore} (hs : store.Reachable) (hf : fresh.Reachable) :
    (r.renderEach es (.start store)).1 = es.map (fun x => (r.renderExpr x (.start fresh)).1) ∧
    (∀ n,
      let p := (r.renderEach (es.take n) (.start store)).2
      p.depth = 0 ∧ p.bound = (es.take n).flatMap r.collected) ∧
    (r.finish e (r.renderEach es (.start store)).2).1 =
      (r.statement e fresh).1.map (fun s => ⟨s.text, es.flatMap r.collected ++ s.constants⟩) ∧
    (∀ x, (r.renderExpr x (.start fresh)).2.bound = r.collected x) ∧
    (∀ x s, (r.statement x fresh).1 = .ok s →
      s.constants = r.collected x ∧ ListsInOrder (r.Binds x) (r.collected x)) ∧
    (∀ x failure, (r.statement x fresh).1 = .error failure →
      ∃ place stage, IsFirst (r.Violates 0 x) place stage failure ∧
        ListsInOrder (fun other value => r.Binds x other value ∧ other < place) (r.collected x)) ∧
    (r.options.inlineConstants = true → ∀ x, r.collected x = []) := by
  have start := between_start hs
  refine ⟨start.renderEach_fst r es hf, fun n => ?_, ?_, fun x => ?_, fun x s h => ?_,
    fun x failure h => ?_, fun inlined x => ?_⟩
  · have after := start.renderEach r (es.take n)
    exact ⟨after.depth_eq, after.bound_eq⟩
  · exact (start.renderEach r es).finish_fst r e hf
  · exact ((between_start hf).renderExpr r x).bound_eq
  · rw [hf.statement_fst] at h
    obtain ⟨succeeds, constants⟩ := Outcome.statement_eq_ok_iff.1 h
    rw [collected_eq_constants]
    exact ⟨constants.symm, listsInOrder_of_succeeds ⟨s.text, succeeds⟩⟩
  · obtain ⟨place, stage, first⟩ := (statement_eq_error_iff hf).1 h
    rw [collected_eq_constants]
    exact ⟨place, stage, first, listsInOrder_of_first first⟩
  · rw [collected_eq_constants]
    exact constants_outcome_of_inlined inlined x 0

/-- One operator has no pattern, and one node is too deep; both come after a constant. -/
theorem rendered_in_succession_failing :
    let dialect := (PatternTable.empty.add "EQ" "{0} = {1}").byName
    let r : Renderer := ⟨dialect, { depthLimit := some 1 }⟩
    let a := Term.ofString "A"
    let unknown := (Term.eq (.ofBool true) a.isNull).expr
    let deep := (Term.eq (.ofBool false) (a.eq a)).expr
    let e := ((Term.ofPath .string ⟨["Name"]⟩).eq a).expr
    let store := TemplateStore.empty 0
    store.Reachable ∧
      (r.finish e (r.renderEach [unknown, e, deep] (.start store)).2).1 =
        .ok ⟨"Name = ?", [.bool true, .string "A", .bool false, .string "A"]⟩ ∧
      ListsInOrder (r.Binds e) [.string "A"] ∧
      (∃ place stage,
        IsFirst (r.Violates 0 unknown) place stage (.render { fault := .missingTemplate "IS_NULL" }) ∧
          ListsInOrder (fun other value => r.Binds unknown other value ∧ other < place)
            [.bool true]) ∧
      Renderer.collected ⟨dialect, { inlineConstants := true }⟩ unknown = [] := by
  intro dialect r a unknown deep e store
  have hs : store.Reachable := .empty 0
  obtain ⟨-, -, last, -, succeeds, fails, -⟩ := r.rendered_in_succession [unknown, e, deep] e hs hs
  have own : (r.statement e store).1 = .ok ⟨"Name = ?", [.string "A"]⟩ := by decide +kernel
  have failure : (r.statement unknown store).1 =
      .error (.render { fault := .missingTemplate "IS_NULL" }) := by decide +kernel
  have before : r.collected unknown = [.bool true] ∧ r.collected e = [.string "A"] ∧
      r.collected deep = [.bool false] := by decide +kernel
  obtain ⟨hu, he, hd⟩ := before
  have listed := (succeeds e _ own).2
  have cut := fails unknown _ failure
  rw [own, List.flatMap_cons, List.flatMap_cons, List.flatMap_cons, hu, he, hd] at last
  rw [he] at listed
  rw [hu] at cut
  obtain ⟨-, -, -, -, -, -, inlined⟩ :=
    Renderer.rendered_in_succession ⟨dialect, { inlineConstants := true }⟩ [] unknown hs hs
  exact ⟨hs, last, listed, cut, inlined rfl unknown⟩

end Renderer

end QueryDialect
