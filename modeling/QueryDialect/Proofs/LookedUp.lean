import QueryDialect.Proofs.FirstFault

/-!
# Patterns that are looked up

Rendering comes to a visited place if nothing is violated before it. The patterns it looks up are
those of the operators at these places, whether it comes to the end or not.
-/
namespace QueryDialect

open Text

namespace Renderer

/-- No violation comes before the place, also none on the way to it. -/
def Reaches (r : Renderer) (depth : Nat) (e : Expr) (place : Place) : Prop :=
  ∀ other stage failure, r.Violates depth e other stage failure → place ≤ other

/-- The pattern is that of a visited operator to which the rendering comes. -/
def LooksUp (r : Renderer) (depth : Nat) (e : Expr) (pattern : String) : Prop :=
  ∃ place s, Visits r.dialect e place s ∧ s.pattern? r.dialect = some pattern ∧
    r.Reaches depth e place

variable {r : Renderer} {depth : Nat} {e : Expr} {place : Place} {pattern : String}

lemma reaches_nil : r.Reaches depth e [] := fun other _ _ _ => Place.nil_le other

lemma reaches_of_not_violates (h : ∀ place stage failure, ¬r.Violates depth e place stage failure) :
    r.Reaches depth e place := fun other stage failure hv => absurd hv (h other stage failure)

section Node

variable {t : Template} {position : Nat}

lemma reaches_cons_iff {index : Nat} {modifier : Modifier} {span : Span} {a : Expr}
    (template : e.template? r.dialect = some t)
    (placeholder : t.elements[position]? = some ⟨.argument index modifier, span⟩)
    (found : e.args[index]? = some a) :
    r.Reaches depth e (position :: place) ↔
      (∀ stage failure, ¬r.Violates depth e [] stage failure) ∧
        (∀ i < position, ∀ other stage failure, ¬r.Violates depth e (i :: other) stage failure) ∧
          r.Reaches (depth + 1) a place := by
  have behind {other : Place} {stage : Stage} {failure : Failure} :
      r.Violates depth e (position :: other) stage failure ↔
        r.Violates (depth + 1) a other stage failure :=
    violates_cons_of_found template placeholder found
  constructor
  · intro reaches
    refine ⟨fun stage failure h => ?_, fun i lt other stage failure h => ?_,
      fun other stage failure h => ?_⟩
    · exact absurd (reaches [] stage failure h) Place.not_cons_le_nil
    · have le := Place.cons_le_cons_iff.1 (reaches _ stage failure h)
      omega
    · have le := Place.cons_le_cons_iff.1 (reaches _ stage failure (behind.2 h))
      exact (le.resolve_left (lt_irrefl position)).2
  · rintro ⟨root, before, within⟩ other stage failure h
    cases other with
    | nil => exact absurd h (root stage failure)
    | cons i other =>
      rw [Place.cons_le_cons_iff]
      rcases Nat.lt_trichotomy i position with lt | rfl | gt
      · exact absurd h (before i lt other stage failure)
      · exact .inr ⟨rfl, within other stage failure (behind.1 h)⟩
      · exact .inl gt

/-- The elements before a position succeed if nothing is violated behind earlier positions. -/
lemma succeeds_before_iff (template : e.template? r.dialect = some t) :
    (∀ x ∈ t.elements.take position, (r.elementOutcome t e.args (depth + 1) x).Succeeds) ↔
      ∀ i < position, ∀ place stage failure, ¬r.Violates depth e (i :: place) stage failure := by
  have hd {i : Nat} {x : Element} (hx : t.elements[i]? = some x) :
      (r.elementOutcome t e.args (depth + 1) x).Succeeds ↔
        ∀ place stage failure, ¬r.Violates depth e (i :: place) stage failure :=
    (decides_element template (fun a _ => r.decides_outcome a) hx).succeeds_iff
  constructor
  · intro succeeds i lt place stage failure h
    obtain ⟨t', index, modifier, span, template', placeholder, -⟩ := violates_cons_iff.1 h
    obtain rfl := Option.some.inj (template.symm.trans template')
    have mem := List.mem_of_getElem? ((List.getElem?_take_of_lt lt).trans placeholder)
    exact (hd placeholder).1 (succeeds _ mem) place stage failure h
  · intro none x mem
    obtain ⟨i, hi⟩ := List.mem_iff_getElem?.1 mem
    rw [List.getElem?_take] at hi
    split_ifs at hi with lt
    exact (hd hi).2 (none i lt)

lemma mem_patterns_element
    (ih : ∀ a ∈ e.args, ∀ depth, pattern ∈ (r.outcome a depth).patterns ↔ r.LooksUp depth a pattern)
    {x : Element} :
    pattern ∈ (r.elementOutcome t e.args (depth + 1) x).patterns ↔
      ∃ index modifier span a, x = ⟨.argument index modifier, span⟩ ∧ e.args[index]? = some a ∧
        r.LooksUp (depth + 1) a pattern := by
  obtain ⟨content, span⟩ := x
  cases content with
  | text verbatim => simp [elementOutcome, Template.renderElement, Outcome.pure_def]
  | argument index modifier =>
    cases found : e.args[index]? with
    | none =>
      rw [elementOutcome_of_missing (List.getElem?_eq_none_iff.1 found)]
      simp [Outcome.fail, found]
    | some a =>
      rw [(elementOutcome_of_found found).2, ih a (List.mem_of_getElem? found)]
      simp [found]

/-- A node that a template renders looks up what its arguments do, as far as it comes to them. -/
lemma mem_patterns_expand (template : e.template? r.dialect = some t)
    (ih : ∀ a ∈ e.args, ∀ depth,
      pattern ∈ (r.outcome a depth).patterns ↔ r.LooksUp depth a pattern) :
    pattern ∈ (r.expandOutcome t (r.argOutcomes e.args) depth).patterns ↔
      ∃ position place s, Visits r.dialect e (position :: place) s ∧
        s.pattern? r.dialect = some pattern ∧ r.Reaches depth e (position :: place) := by
  cases reached : r.limitReached? depth with
  | some limit =>
    have fault : r.Violates depth e [] .depth (.render { fault := .depthLimit limit }) :=
      (violates_nil_iff_of_template? template).2 ⟨rfl, limit, reached, rfl⟩
    -- the limit is violated at the root, so no place behind a placeholder is come to
    rw [expandOutcome_of_reached reached]
    refine iff_of_false List.not_mem_nil ?_
    rintro ⟨position, place, s, -, -, reaches⟩
    exact Place.not_cons_le_nil (reaches [] _ _ fault)
  | none =>
    have allowed (stage : Stage) (failure : Failure) : ¬r.Violates depth e [] stage failure := by
      simp [violates_nil_iff_of_template? template, reached]
    rw [expandOutcome_of_allowed reached, Outcome.mem_patterns_renderAll]
    constructor
    · rintro ⟨position, x, hx, mem, before⟩
      obtain ⟨index, modifier, span, a, rfl, found, place, s, within, hs, reaches⟩ :=
        (mem_patterns_element ih).1 mem
      refine ⟨position, place, s, .arg template hx found within, hs, ?_⟩
      exact (reaches_cons_iff template hx found).2
        ⟨allowed, (succeeds_before_iff template).1 before, reaches⟩
    · rintro ⟨position, place, s, visited, hs, reaches⟩
      obtain ⟨t', index, modifier, span, a, template', placeholder, found, within⟩ :=
        Visits.cons_iff.1 visited
      obtain rfl := Option.some.inj (template.symm.trans template')
      obtain ⟨-, before, reaches⟩ := (reaches_cons_iff template placeholder found).1 reaches
      exact ⟨position, _, placeholder,
        (mem_patterns_element ih).2 ⟨_, _, _, a, rfl, found, place, s, within, hs, reaches⟩,
        (succeeds_before_iff template).2 before⟩

end Node

/-- What is looked up belongs to the root or to something behind one of its placeholders. -/
lemma looksUp_iff : r.LooksUp depth e pattern ↔ e.pattern? r.dialect = some pattern ∨
    ∃ position place s, Visits r.dialect e (position :: place) s ∧
      s.pattern? r.dialect = some pattern ∧ r.Reaches depth e (position :: place) := by
  constructor
  · rintro ⟨place, s, visited, hs, reaches⟩
    cases place with
    | nil => exact .inl (Visits.nil_iff.1 visited ▸ hs)
    | cons position place => exact .inr ⟨position, place, s, visited, hs, reaches⟩
  · rintro (he | ⟨position, place, s, h⟩)
    · exact ⟨[], e, .root e, he, reaches_nil⟩
    · exact ⟨position :: place, s, h⟩

lemma looksUp_of_template?_eq_none (none : e.template? r.dialect = none) :
    r.LooksUp depth e pattern ↔ e.pattern? r.dialect = some pattern := by
  refine looksUp_iff.trans (or_iff_left ?_)
  rintro ⟨position, place, s, visited, -⟩
  cases visited.eq_nil_of_template?_eq_none none

/-- Rendering looks up the patterns of the visited operators that it comes to. -/
theorem mem_patterns_outcome (r : Renderer) (e : Expr) (pattern : String) (depth : Nat) :
    pattern ∈ (r.outcome e depth).patterns ↔ r.LooksUp depth e pattern := by
  induction e generalizing depth with
  | constant type value =>
    have silent := (r.outcome_of_leaf (e := .constant type value) rfl depth).2
    rw [looksUp_of_template?_eq_none rfl, silent]
    exact iff_of_false List.not_mem_nil nofun
  | path type path =>
    have silent := (r.outcome_of_leaf (e := .path type path) rfl depth).2
    rw [looksUp_of_template?_eq_none rfl, silent]
    exact iff_of_false List.not_mem_nil nofun
  | template type t args ih =>
    rw [outcome_template, looksUp_iff, or_iff_right nofun]
    exact mem_patterns_expand (e := .template type t args) rfl ih
  | operation type f args ih =>
    have hp : (Expr.operation type f args).pattern? r.dialect = r.dialect f := rfl
    cases found : r.dialect f with
    | none =>
      have none := Expr.template?_of_missing found type args
      rw [looksUp_of_template?_eq_none none, outcome_operation_of_missing found, hp, found]
      exact iff_of_false List.not_mem_nil nofun
    | some own =>
      cases compiled : Template.compile own with
      | error error =>
        -- the pattern is looked up all the same
        have none := Expr.template?_of_malformed found compiled type args
        rw [looksUp_of_template?_eq_none none, outcome_operation_of_malformed found compiled, hp,
          found]
        simp [Outcome.asking, eq_comm]
      | ok t =>
        have template := Expr.template?_of_compile found compiled type args
        rw [looksUp_iff, ← mem_patterns_expand template ih, outcome_operation_of_compile found compiled,
          hp, found]
        simp [Outcome.asking, eq_comm, Expr.args]

end Renderer

end QueryDialect
