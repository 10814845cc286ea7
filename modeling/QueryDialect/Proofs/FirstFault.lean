import QueryDialect.Proofs.Violations

/-!
# The first fault

Rendering comes to a text if no condition is violated at a visited place, and else it fails with the
first violation in depth-first order.
-/
namespace QueryDialect

open Text

namespace Renderer

variable {r : Renderer} {depth : Nat} {e : Expr} {place : Place} {stage : Stage} {failure : Failure}

/-- What an element adds to a node over these arguments, which stand at the given depth. -/
def elementOutcome (r : Renderer) (t : Template) (args : List Expr) (depth : Nat) :
    Element → Outcome String :=
  t.renderElement args .fail fun a form => r.outcomeAs a form depth

lemma expandOutcome_of_reached {t : Template} {args : List (TextForm → Nat → Outcome String)}
    {limit : Nat} (reached : r.limitReached? depth = some limit) :
    r.expandOutcome t args depth = .fail { fault := .depthLimit limit } := by
  rw [expandOutcome, reached]

lemma expandOutcome_of_allowed {t : Template} {args : List Expr}
    (allowed : r.limitReached? depth = none) :
    r.expandOutcome t (r.argOutcomes args) depth =
      Template.renderAll (r.elementOutcome t args (depth + 1)) t.elements := by
  rw [expandOutcome_args, allowed]
  exact Template.renderWith_eq_renderAll ..

/-- Leaves are rendered at any depth, and without a look-up. -/
lemma outcome_of_leaf {text : String} (leaf : e.plainText? = some text) (depth : Nat) :
    (r.outcome e depth).Succeeds ∧ (r.outcome e depth).patterns = [] := by
  cases e with
  | constant type value =>
    rw [outcome_constant, constantOutcome]
    split
    · exact ⟨⟨_, rfl⟩, rfl⟩
    · exact ⟨⟨_, rfl⟩, rfl⟩
  | path type path =>
    rw [outcome_path]
    exact ⟨⟨_, rfl⟩, rfl⟩
  | operation => cases leaf
  | template => cases leaf

section Element

variable {t : Template} {args : List Expr} {index : Nat} {modifier : Modifier} {span : Span}

lemma elementOutcome_of_missing (missing : args.length ≤ index) :
    r.elementOutcome t args depth ⟨.argument index modifier, span⟩ =
      .fail (t.missingArgument index args.length span) := by
  have absent : args[index]? = none := List.getElem?_eq_none missing
  simp only [elementOutcome, Template.renderElement, absent]

lemma elementOutcome_eq_of_found {a : Expr} (found : args[index]? = some a) :
    r.elementOutcome t args depth ⟨.argument index modifier, span⟩ =
      modifier.apply <$> r.outcomeAs a modifier.form depth := by
  simp only [elementOutcome, Template.renderElement, found, bind_pure_comp]

/-- The modifier changes neither whether the argument fails nor what it looks up. -/
lemma elementOutcome_of_found {a : Expr} (found : args[index]? = some a) :
    let x := r.elementOutcome t args depth ⟨.argument index modifier, span⟩
    (∀ failure, x.result = .error failure ↔ (r.outcome a depth).result = .error failure) ∧
      x.patterns = (r.outcome a depth).patterns := by
  have hx : r.elementOutcome t args depth ⟨.argument index modifier, span⟩ =
      modifier.apply <$> r.outcomeAs a modifier.form depth := elementOutcome_eq_of_found found
  have herror (x : Outcome String) (failure : Failure) :
      x.result.map modifier.apply = .error failure ↔ x.result = .error failure := by
    cases x.result <;> simp [Except.map]
  simp only [hx, Outcome.map_eq, herror]
  rcases outcomeAs_cases a modifier.form with ⟨text, leaf, plain⟩ | usual
  · obtain ⟨⟨other, succeeds⟩, silent⟩ := r.outcome_of_leaf leaf depth
    rw [plain, silent, succeeds]
    exact ⟨fun failure => by simp [Outcome.pure_def], rfl⟩
  · rw [usual]
    exact ⟨fun _ => Iff.rfl, rfl⟩

end Element

/-- A result is there if nothing is violated, and else the failure of the first violation. -/
def Decides (violates : Place → Stage → Failure → Prop) : Except Failure String → Prop
  | .ok _ => ∀ place stage failure, ¬violates place stage failure
  | .error failure => ∃ place stage, IsFirst violates place stage failure

section Decided

variable {violates : Place → Stage → Failure → Prop}

/-- Only the failure counts, not the text. -/
lemma Decides.congr {x y : Except Failure String} (h : Decides violates x)
    (fails : ∀ failure, y = .error failure ↔ x = .error failure) : Decides violates y := by
  cases y with
  | error failure => rwa [(fails failure).1 rfl] at h
  | ok text =>
    cases x with
    | error failure => cases (fails failure).2 rfl
    | ok other => exact h

lemma Decides.succeeds_iff {x : Outcome String} (h : Decides violates x.result) :
    x.Succeeds ↔ ∀ place stage failure, ¬violates place stage failure := by
  rcases x.succeeds_or_error with ⟨text, hx⟩ | ⟨failure, hx⟩
  · rw [hx] at h
    exact iff_of_true ⟨text, hx⟩ h
  · rw [hx] at h
    obtain ⟨place, stage, hv, -⟩ := h
    exact iff_of_false (Outcome.not_succeeds_of_error hx) fun none => none place stage failure hv

/-- Elements decide a whole whose violations are theirs, each behind the position of its element. -/
lemma decides_renderAll {render : Element → Outcome String} {elements : List Element}
    (root : ∀ stage failure, ¬violates [] stage failure)
    (behind : ∀ position x, elements[position]? = some x →
      Decides (fun place => violates (position :: place)) (render x).result)
    (beyond : ∀ position place stage failure, violates (position :: place) stage failure →
      ∃ x, elements[position]? = some x) :
    Decides violates (Template.renderAll render elements).result := by
  cases hr : (Template.renderAll render elements).result with
  | ok text =>
    intro place stage failure h
    cases place with
    | nil => exact root stage failure h
    | cons position place =>
      obtain ⟨x, hx⟩ := beyond position place stage failure h
      have succeeds := Outcome.renderAll_succeeds_iff.1 ⟨text, hr⟩ x (List.mem_of_getElem? hx)
      exact (behind position x hx).succeeds_iff.1 succeeds place stage failure h
  | error failure =>
    obtain ⟨position, x, hx, fails, before⟩ := Outcome.exists_of_renderAll_error hr
    have hd := behind position x hx
    rw [fails] at hd
    obtain ⟨place, stage, h, first⟩ := hd
    refine ⟨position :: place, stage, h, fun other later g hg => ?_⟩
    cases other with
    | nil => exact absurd hg (root later g)
    | cons i other =>
      rcases Nat.lt_trichotomy i position with lt | rfl | gt
      · -- the elements before the failing one violate nothing
        obtain ⟨y, hy⟩ := beyond i other later g hg
        have succeeds := before y (List.mem_of_getElem? (by rwa [List.getElem?_take_of_lt lt]))
        exact absurd hg ((behind i y hy).succeeds_iff.1 succeeds other later g)
      · exact toLex_cons_le_iff.2 (first other later g hg)
      · exact toLex_cons_le_of_lt gt place other stage later

end Decided

lemma decides_leaf {text : String} (leaf : e.plainText? = some text) (depth : Nat) :
    Decides (r.Violates depth e) (r.outcome e depth).result := by
  obtain ⟨⟨text, succeeds⟩, -⟩ := r.outcome_of_leaf leaf depth
  rw [succeeds]
  exact fun place stage failure => not_violates_of_leaf leaf

section Node

variable {t : Template}

/-- An element is decided by the violations behind its position. -/
lemma decides_element (template : e.template? r.dialect = some t)
    (ih : ∀ a ∈ e.args, ∀ depth, Decides (r.Violates depth a) (r.outcome a depth).result)
    {position : Nat} {x : Element} (hx : t.elements[position]? = some x) :
    Decides (fun place => r.Violates depth e (position :: place))
      (r.elementOutcome t e.args (depth + 1) x).result := by
  obtain ⟨content, span⟩ := x
  cases content with
  | text verbatim =>
    intro place stage failure h
    obtain ⟨t', index, modifier, span', template', placeholder, -⟩ := violates_cons_iff.1 h
    obtain rfl := Option.some.inj (template.symm.trans template')
    simp [hx] at placeholder
  | argument index modifier =>
    cases found : e.args[index]? with
    | none =>
      have missing := List.getElem?_eq_none_iff.1 found
      have fault : r.Violates depth e [position] .argument
          (.render (t.missingArgument index e.args.length span)) :=
        ⟨[], e, _, rfl, .root e, .argument template hx missing⟩
      rw [elementOutcome_of_missing missing]
      exact ⟨[], .argument, fault, fun other later _ _ => toLex_nil_le fun _ => Nat.zero_le _⟩
    | some a =>
      have hv : (fun place => r.Violates depth e (position :: place)) = r.Violates (depth + 1) a := by
        funext place stage failure
        exact propext (violates_cons_of_found template hx found)
      rw [hv]
      exact (ih a (List.mem_of_getElem? found) (depth + 1)).congr (elementOutcome_of_found found).1

lemma decides_expand (template : e.template? r.dialect = some t)
    (ih : ∀ a ∈ e.args, ∀ depth, Decides (r.Violates depth a) (r.outcome a depth).result) :
    Decides (r.Violates depth e) (r.expandOutcome t (r.argOutcomes e.args) depth).result := by
  cases reached : r.limitReached? depth with
  | some limit =>
    have fault : r.Violates depth e [] .depth (.render { fault := .depthLimit limit }) :=
      (violates_nil_iff_of_template? template).2 ⟨rfl, limit, reached, rfl⟩
    rw [expandOutcome_of_reached reached]
    refine ⟨[], .depth, fault, fun other later g h => toLex_nil_le ?_⟩
    rintro rfl
    exact ((violates_nil_iff_of_template? template).1 h).1.ge
  | none =>
    rw [expandOutcome_of_allowed reached]
    refine decides_renderAll (fun stage failure h => ?_) (fun position x => decides_element template ih)
      fun position place stage failure h => ?_
    · obtain ⟨-, limit, some, -⟩ := (violates_nil_iff_of_template? template).1 h
      simp [reached] at some
    · obtain ⟨t', index, modifier, span, template', placeholder, -⟩ := violates_cons_iff.1 h
      obtain rfl := Option.some.inj (template.symm.trans template')
      exact ⟨_, placeholder⟩

end Node

/-- Whether and how rendering fails is decided by the violations. -/
theorem decides_outcome (r : Renderer) (e : Expr) (depth : Nat) :
    Decides (r.Violates depth e) (r.outcome e depth).result := by
  induction e generalizing depth with
  | constant type value => exact decides_leaf rfl depth
  | path type path => exact decides_leaf rfl depth
  | template type t args ih =>
    rw [outcome_template]
    exact decides_expand (e := .template type t args) rfl ih
  | operation type f args ih =>
    cases found : r.dialect f with
    | none =>
      rw [outcome_operation_of_missing found]
      refine ⟨[], .pattern, violates_nil_iff.2 (.pattern type args found), fun other later g h => ?_⟩
      refine toLex_nil_le ?_
      rintro rfl
      cases violates_nil_iff.1 h <;> decide
    | some pattern =>
      cases compiled : Template.compile pattern with
      | error error =>
        rw [outcome_operation_of_malformed found compiled]
        refine ⟨[], .compilation, violates_nil_iff.2 (.compilation type args found compiled),
          fun other later g h => toLex_nil_le ?_⟩
        rintro rfl
        cases violates_nil_iff.1 h with
        | pattern _ _ missing => simp [found] at missing
        | compilation => exact le_rfl
        | depth => decide
      | ok t =>
        rw [outcome_operation_of_compile found compiled]
        exact decides_expand (Expr.template?_of_compile found compiled type args) ih

lemma succeeds_outcome_iff :
    (r.outcome e depth).Succeeds ↔ ∀ place stage failure, ¬r.Violates depth e place stage failure :=
  (r.decides_outcome e depth).succeeds_iff

lemma outcome_eq_error_iff :
    (r.outcome e depth).result = .error failure ↔
      ∃ place stage, IsFirst (r.Violates depth e) place stage failure := by
  have hd := r.decides_outcome e depth
  constructor
  · intro h
    rwa [h] at hd
  · rintro ⟨place, stage, first⟩
    rcases (r.outcome e depth).succeeds_or_error with hs | ⟨other, ho⟩
    · exact absurd first.1 (succeeds_outcome_iff.1 hs place stage failure)
    · rw [ho] at hd ⊢
      obtain ⟨place', stage', first'⟩ := hd
      obtain ⟨rfl, rfl⟩ := first'.toLex_eq first
      rw [first.1.unique first'.1]

/-- At this depth the expression is rendered to the end, whatever was rendered before. -/
def Renders (r : Renderer) (depth : Nat) (e : Expr) : Prop :=
  ∀ p : Progress, p.store.Reachable → p.depth = depth → ∃ text, (r.renderExpr e p).1 = .ok text

lemma renders_of_not_violates (h : ∀ place stage failure, ¬r.Violates depth e place stage failure) :
    r.Renders depth e := by
  rintro p hp rfl
  rw [r.realizes_outcome e p hp.consistent]
  exact succeeds_outcome_iff.2 h

lemma exists_statement_iff {store : TemplateStore} (hs : store.Reachable) :
    (∃ s, (r.statement e store).1 = .ok s) ↔
      ∀ place s, Visits r.dialect e place s → r.Permits place.length s := by
  have hp := r.forall_not_violates_iff 0 e
  simp only [Nat.zero_add] at hp
  rw [hs.statement_fst, ← hp, ← succeeds_outcome_iff]
  constructor
  · rintro ⟨s, h⟩
    exact ⟨_, (Outcome.statement_eq_ok_iff.1 h).1⟩
  · rintro ⟨text, h⟩
    exact ⟨_, Outcome.statement_of_ok h⟩

lemma statement_eq_error_iff {store : TemplateStore} (hs : store.Reachable) :
    (r.statement e store).1 = .error failure ↔
      ∃ place stage, IsFirst (r.Violates 0 e) place stage failure := by
  rw [hs.statement_fst, ← outcome_eq_error_iff]
  exact Outcome.statement_eq_error_iff

/-- Before the first violation, the arguments of all placeholders are rendered to the end. -/
lemma IsFirst.renders_before {outer : Place} {position : Nat}
    (first : IsFirst (r.Violates 0 e) (outer ++ position :: place) stage failure) {s : Expr}
    {t : Template} (visited : Visits r.dialect e outer s) (template : s.template? r.dialect = some t)
    {i index : Nat} {modifier : Modifier} {span : Span} (lt : i < position)
    (placeholder : t.elements[i]? = some ⟨.argument index modifier, span⟩) :
    ∃ a, s.args[index]? = some a ∧ r.Renders (outer.length + 1) a := by
  cases found : s.args[index]? with
  | none =>
    have fault : r.NodeFault (0 + outer.length) s [i] .argument _ :=
      .argument template placeholder (List.getElem?_eq_none_iff.1 found)
    exact absurd ⟨outer, s, [i], rfl, visited, fault⟩ (first.not_before lt [] _ _)
  | some a =>
    refine ⟨a, rfl, renders_of_not_violates fun place later g h => ?_⟩
    have hi : Visits r.dialect e (outer ++ [i]) a :=
      visited.trans (.arg template placeholder found (.root a))
    have hw : r.Violates 0 e ((outer ++ [i]) ++ place) later g := .within hi (by simpa using h)
    rw [List.append_assoc] at hw
    exact first.not_before lt place later g hw

/-- An expression has a statement if and only if every visited node is permitted. If it has none,
the failure is that of the first violation in depth-first order, and the arguments of all
placeholders before that one were rendered to the end. -/
theorem statement_fails_by_first_violation (r : Renderer) (e : Expr) {store : TemplateStore}
    (hs : store.Reachable) :
    ((∃ s, (r.statement e store).1 = .ok s) ↔
      ∀ place s, Visits r.dialect e place s → r.Permits place.length s) ∧
    (∀ failure, (r.statement e store).1 = .error failure ↔
      ∃ place stage, IsFirst (r.Violates 0 e) place stage failure) ∧
    ∀ outer position rest stage failure,
      IsFirst (r.Violates 0 e) (outer ++ position :: rest) stage failure →
        ∀ s t, Visits r.dialect e outer s → s.template? r.dialect = some t →
          ∀ i < position, ∀ index modifier span,
            t.elements[i]? = some ⟨.argument index modifier, span⟩ →
              ∃ a, s.args[index]? = some a ∧ r.Renders (outer.length + 1) a := by
  refine ⟨exists_statement_iff hs, fun failure => statement_eq_error_iff hs, ?_⟩
  intro outer position rest stage failure first s t visited template i lt index modifier span
  exact first.renders_before visited template lt

/-- The second placeholder has no argument; the third one, an operator without a pattern, is never
come to, and the limit is too narrow for it as well. -/
theorem statement_fails_by_first_violation_out_of_range :
    let r : Renderer := ⟨fun _ => none, { depthLimit := some 1 }⟩
    let missing := Expr.operation .boolean Builtin.not.toOperator []
    let t : Template := ⟨"{0s} {2}{1}", [⟨.argument 0 .plain, ⟨0, 4⟩⟩, ⟨.text " ", ⟨4, 5⟩⟩,
      ⟨.argument 2 .keep, ⟨5, 8⟩⟩, ⟨.argument 1 .keep, ⟨8, 11⟩⟩]⟩
    let e := Expr.template .any t [.constant .string (.string "X"), missing]
    let store := TemplateStore.empty 0
    store.Reachable ∧ ∃ place stage, IsFirst (r.Violates 0 e) place stage (.render {
      fault := .indexOutOfRange 2 2 (.template "{0s} {2}{1}")
      span := some ⟨5, 8⟩ }) := by
  intro r missing t e store
  have hs : store.Reachable := .empty 0
  obtain ⟨-, fails, -⟩ := r.statement_fails_by_first_violation e hs
  exact ⟨hs, (fails _).1 rfl⟩

end Renderer

end QueryDialect
