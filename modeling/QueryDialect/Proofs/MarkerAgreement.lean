import QueryDialect.Expr.Term
import QueryDialect.Proofs.Meaning

/-!
# Markers and literals

As long as no template changes the case of what it renders, bound and inlined statements have one
outline: texts with slots for constants between them. A marker or the literal of its constant stands
in each slot, and the bound constants are those of the slots, in order.
-/
namespace QueryDialect

/-- A text with slots: each constant is followed by the text up to the next one. -/
structure Outline where
  lead : String
  slots : List (Value × String)

namespace Outline

def fill (o : Outline) (slotText : Value → String) : String :=
  o.lead ++ String.join (o.slots.map fun slot => slotText slot.1 ++ slot.2)

def values (o : Outline) : List Value := o.slots.map Prod.fst

/-- Slots behind a text, with another outline behind the last of them. -/
def prolong (o : Outline) (lead : String) : List (Value × String) → Outline
  | [] => ⟨lead ++ o.lead, o.slots⟩
  | (value, after) :: rest => ⟨lead, (value, (o.prolong after rest).lead) :: (o.prolong after rest).slots⟩

def append (o u : Outline) : Outline := u.prolong o.lead o.slots

lemma fill_single (lead after : String) (value : Value) (slotText : Value → String) :
    fill ⟨lead, [(value, after)]⟩ slotText = lead ++ slotText value ++ after := by
  simp [fill, String.append_assoc]

lemma fill_append (o u : Outline) (slotText : Value → String) :
    (o.append u).fill slotText = o.fill slotText ++ u.fill slotText := by
  obtain ⟨lead, slots⟩ := o
  unfold append fill
  induction slots generalizing lead with
  | nil => simp [prolong, String.append_assoc]
  | cons slot rest ih =>
    have hi := ih slot.2
    simp only [prolong, List.map_cons, String.join_cons, String.append_assoc] at hi ⊢
    rw [hi]

lemma values_append (o u : Outline) : (o.append u).values = o.values ++ u.values := by
  obtain ⟨lead, slots⟩ := o
  unfold append values
  induction slots generalizing lead with
  | nil => rfl
  | cons slot rest ih =>
    have hi := ih slot.2
    simp only [prolong, List.map_cons, List.cons_append] at hi ⊢
    rw [hi]

end Outline

/-- How constants are shown: whether they are inlined, and the marker if they are not. -/
structure Showing where
  inlined : Bool
  marker : String

namespace Showing

def slotText (s : Showing) (value : Value) : String := if s.inlined then value.literal else s.marker

def bound (s : Showing) (values : List Value) : List Value := if s.inlined then [] else values

lemma bound_append (s : Showing) (values more : List Value) :
    s.bound (values ++ more) = s.bound values ++ s.bound more := by
  unfold bound
  split <;> rfl

/-- A renderer that shows constants in this way. -/
def renderer (s : Showing) (dialect : Dialect) (limit : Option Nat) : Renderer :=
  ⟨dialect, ⟨s.inlined, s.marker, limit⟩⟩

/-- The outcome is the planned failure, or the planned outline with its slots filled. -/
def Follows (s : Showing) (plan : Except Failure Outline) (x : Outcome String) : Prop :=
  match plan with
  | .error failure => x.result = .error failure
  | .ok o => x.result = .ok (o.fill s.slotText) ∧ x.constants = s.bound o.values

end Showing

/-- All ways to show constants follow one plan. -/
def Outlined (x : Showing → Outcome String) : Prop :=
  ∃ plan, ∀ s : Showing, s.Follows plan (x s)

lemma outlined_text (text : String) : Outlined fun _ => pure text := by
  refine ⟨.ok ⟨text, []⟩, fun s => ⟨?_, ?_⟩⟩
  · simp [Outline.fill, Outcome.pure_def]
  · simp [Outline.values, Showing.bound, Outcome.pure_def]

lemma outlined_append {x y : Showing → Outcome String} (hx : Outlined x) (hy : Outlined y) :
    Outlined fun s => (x s).append (y s) := by
  obtain ⟨plan, hx⟩ := hx
  obtain ⟨next, hy⟩ := hy
  cases plan with
  | error failure =>
    refine ⟨.error failure, fun s => ?_⟩
    beta_reduce
    rw [Outcome.append_of_error (hx s)]
    rfl
  | ok o =>
    cases next with
    | error failure =>
      refine ⟨.error failure, fun s => ?_⟩
      beta_reduce
      rw [Outcome.append_of_error_right (hx s).1 (hy s)]
      rfl
    | ok u =>
      refine ⟨.ok (o.append u), fun s => ?_⟩
      obtain ⟨hxr, hxc⟩ := hx s
      obtain ⟨hyr, hyc⟩ := hy s
      beta_reduce
      rw [Outcome.append_of_ok hxr hyr]
      simp [Showing.Follows, Outline.fill_append, Outline.values_append, Showing.bound_append,
        hxc, hyc]

def Modifier.keepsCase (modifier : Modifier) : Prop := modifier ≠ .lower ∧ modifier ≠ .upper

lemma Modifier.apply_of_keepsCase {modifier : Modifier} (h : modifier.keepsCase) :
    modifier.apply = id := by
  funext text
  cases modifier with
  | keep | plain => rfl
  | lower => exact absurd rfl h.1
  | upper => exact absurd rfl h.2

lemma compositional_outlined : Outcome.Compositional Modifier.keepsCase Outlined where
  text := outlined_text
  fault error := ⟨.error (.render error), fun _ => rfl⟩
  modify modifier keeps h := by simpa [Modifier.apply_of_keepsCase keeps] using h
  append := outlined_append

def Template.KeepsCase (t : Template) : Prop :=
  ∀ x ∈ t.elements, ∀ index modifier, x.content = .argument index modifier → modifier.keepsCase

/-- No pattern of an operator in the expression, and no template in it, changes the case of an
argument. -/
structure Expr.KeepsCase (dialect : Dialect) (e : Expr) : Prop where
  operation {type : ResultKind} {f : Operator} {args : List Expr} {pattern : String} {t : Template} :
    Within (.operation type f args) e → dialect f = some pattern →
      Template.compile pattern = .ok t → t.KeepsCase
  template {type : ResultKind} {t : Template} {args : List Expr} :
    Within (.template type t args) e → t.KeepsCase

lemma Expr.KeepsCase.arg {dialect : Dialect} {a e : Expr} (h : e.KeepsCase dialect)
    (mem : a ∈ e.args) : a.KeepsCase dialect :=
  ⟨fun within => h.operation (.arg mem within), fun within => h.template (.arg mem within)⟩

section

variable {dialect : Dialect} {limit : Option Nat}

lemma outlined_constant (value : Value) :
    Outlined fun s => (s.renderer dialect limit).constantOutcome value := by
  refine ⟨.ok ⟨"", [(value, "")]⟩, fun s => ?_⟩
  obtain ⟨inlined, marker⟩ := s
  cases inlined <;>
    simp [Showing.Follows, Showing.renderer, Renderer.constantOutcome, Outline.fill,
      Outline.values, Showing.slotText, Showing.bound, Outcome.pure_def]

lemma outlined_arg {e : Expr} (h : ∀ depth, Outlined fun s => (s.renderer dialect limit).outcome e depth)
    (form : TextForm) (depth : Nat) :
    Outlined fun s => (s.renderer dialect limit).outcomeAs e form depth := by
  cases form with
  | usual => exact h depth
  | plain =>
    cases hp : e.plainText? with
    | none => simpa only [Renderer.outcomeAs_of_inner _ hp] using h depth
    | some text => simpa only [Renderer.outcomeAs_of_leaf _ hp] using outlined_text text

lemma outlined_expand {t : Template} {args : List Expr} (ht : t.KeepsCase)
    (ha : ∀ a ∈ args, ∀ depth, Outlined fun s => (s.renderer dialect limit).outcome a depth)
    (depth : Nat) :
    Outlined fun s =>
      let r := s.renderer dialect limit
      r.expandOutcome t (r.argOutcomes args) depth := by
  have he := compositional_outlined.expand (r := fun s => s.renderer dialect limit)
    (g := fun _ a => a) (fun _ => rfl) ht depth
    fun a mem form => outlined_arg (ha a mem) form _
  simpa only [List.map_id'] using he

lemma outlined_outcome (limit : Option Nat) {e : Expr} (h : e.KeepsCase dialect) (depth : Nat) :
    Outlined fun s => (s.renderer dialect limit).outcome e depth := by
  induction e generalizing depth with
  | constant type value => simpa only [Renderer.outcome_constant] using outlined_constant value
  | path type path => simpa only [Renderer.outcome_path] using outlined_text path.display
  | template type t args ih =>
    simp only [Renderer.outcome_template]
    exact outlined_expand (h.template .self) (fun a mem => ih a mem (h.arg mem)) depth
  | operation type f args ih =>
    cases hf : dialect f with
    | none =>
      have ho (s : Showing) := Renderer.outcome_operation_of_missing (r := s.renderer dialect limit)
        hf type args depth
      simp only [ho]
      exact compositional_outlined.fault _
    | some pattern =>
      cases hc : Template.compile pattern with
      | error e =>
        have ho (s : Showing) := Renderer.outcome_operation_of_malformed
          (r := s.renderer dialect limit) hf hc type args depth
        simp only [ho]
        exact ⟨.error (.compile e), fun _ => rfl⟩
      | ok t =>
        have ho (s : Showing) := Renderer.outcome_operation_of_compile
          (r := s.renderer dialect limit) hf hc type args depth
        obtain ⟨plan, hp⟩ := outlined_expand (h.operation .self hf hc)
          (fun a mem => ih a mem (h.arg mem)) depth
        simp only [ho]
        exact ⟨plan, hp⟩

end

/-- Bound and inlined constants agree: whatever the marker and the store, an expression whose
templates keep the case fails in one and the same way, or has one outline with markers or literals
in its slots. -/
theorem statements_share_outline (dialect : Dialect) (limit : Option Nat) {e : Expr}
    (h : e.KeepsCase dialect) :
    (∃ failure, ∀ inlineConstants marker store, store.Reachable →
      (Renderer.statement ⟨dialect, inlineConstants, marker, limit⟩ e store).1 = .error failure) ∨
    ∃ o : Outline, ∀ marker store, store.Reachable →
      (Renderer.statement ⟨dialect, false, marker, limit⟩ e store).1 =
        .ok ⟨o.fill fun _ => marker, o.values⟩ ∧
      (Renderer.statement ⟨dialect, true, marker, limit⟩ e store).1 =
        .ok ⟨o.fill Value.literal, []⟩ := by
  obtain ⟨plan, hp⟩ := outlined_outcome limit h 0
  cases plan with
  | error failure =>
    refine .inl ⟨failure, fun inlineConstants marker store hs => ?_⟩
    have hf := hp ⟨inlineConstants, marker⟩
    rw [hs.statement_fst]
    exact Outcome.statement_of_error hf
  | ok o =>
    refine .inr ⟨o, fun marker store hs => ?_⟩
    obtain ⟨hb, hbc⟩ := hp ⟨false, marker⟩
    obtain ⟨hi, hic⟩ := hp ⟨true, marker⟩
    rw [hs.statement_fst, hs.statement_fst]
    constructor
    · refine (Outcome.statement_of_ok hb).trans ?_
      rw [hbc]
      rfl
    · refine (Outcome.statement_of_ok hi).trans ?_
      rw [hic]
      rfl

/-- A pattern that swaps its arguments and repeats one of them as plain text, which is no slot. If
the limit leaves no room, the statement fails in one way however constants are shown. -/
theorem statements_share_outline_swapped :
    let e := (Term.eq (.ofPath .string ⟨["t", "name"]⟩) (.ofString "O'Brien")).expr
    let dialect : Dialect := fun _ => some "{1} = {0}{1s}"
    let o : Outline := ⟨"", [(.string "O'Brien", " = t.nameO'Brien")]⟩
    e.KeepsCase dialect ∧
      (∀ marker store, store.Reachable →
        (Renderer.statement ⟨dialect, false, marker, some 1⟩ e store).1 =
          .ok ⟨o.fill fun _ => marker, o.values⟩ ∧
        (Renderer.statement ⟨dialect, true, marker, some 1⟩ e store).1 =
          .ok ⟨o.fill Value.literal, []⟩) ∧
      o.fill (fun _ => "$1") = "$1 = t.nameO'Brien" ∧ o.values = [.string "O'Brien"] ∧
      o.fill Value.literal = "'O''Brien' = t.nameO'Brien" ∧
      ∀ inlineConstants marker store, store.Reachable →
        (Renderer.statement ⟨dialect, inlineConstants, marker, some 0⟩ e store).1 =
          .error (.render { fault := .depthLimit 0 }) := by
  intro e dialect o
  have hc : Template.compile "{1} = {0}{1s}" = .ok ⟨"{1} = {0}{1s}",
      [⟨.argument 1 .keep, ⟨0, 3⟩⟩, ⟨.text " = ", ⟨3, 6⟩⟩, ⟨.argument 0 .keep, ⟨6, 9⟩⟩,
        ⟨.argument 1 .plain, ⟨9, 13⟩⟩]⟩ := by
    decide +kernel
  have h : e.KeepsCase dialect := by
    refine ⟨fun _ found compiled => ?_, fun within => ?_⟩
    · obtain rfl := Option.some.inj found
      obtain rfl := Except.ok.inj (hc.symm.trans compiled)
      simp [Template.KeepsCase, Modifier.keepsCase]
    · simp [e, Term.eq, Term.binary, Term.apply, Term.ofPath, Term.ofString] at within
  have start : (TemplateStore.empty 0).Reachable := .empty 0
  have bound : (Renderer.statement ⟨dialect, false, "$", some 1⟩ e (.empty 0)).1 =
      .ok ⟨"$ = t.nameO'Brien", [.string "O'Brien"]⟩ := by decide +kernel
  have unmarked : (Renderer.statement ⟨dialect, false, "", some 1⟩ e (.empty 0)).1 =
      .ok ⟨" = t.nameO'Brien", [.string "O'Brien"]⟩ := by decide +kernel
  have stopped : (Renderer.statement ⟨dialect, false, "", some 0⟩ e (.empty 0)).1 =
      .error (.render { fault := .depthLimit 0 }) := by decide +kernel
  refine ⟨h, ?_, by decide, by decide, by decide +kernel, ?_⟩
  · obtain ⟨failure, fails⟩ | ⟨shared, agrees⟩ := statements_share_outline dialect (some 1) h
    · cases (fails false "$" _ start).symm.trans bound
    · -- the texts with two markers leave no room for anything in front of the slot
      have marked := Except.ok.inj ((agrees "$" _ start).1.symm.trans bound)
      have plain := Except.ok.inj ((agrees "" _ start).1.symm.trans unmarked)
      suffices same : shared = o by
        rw [← same]
        exact agrees
      obtain ⟨lead, slots⟩ := shared
      obtain ⟨⟨value, after⟩, rfl, rfl⟩ := List.map_eq_singleton_iff.1 (Statement.mk.inj plain).2
      have text := (Outline.fill_single ..).symm.trans (Statement.mk.inj plain).1
      have text' := (Outline.fill_single ..).symm.trans (Statement.mk.inj marked).1
      have front : lead = "" := by
        apply String.toList_injective
        cases chars : lead.toList with
        | nil => rfl
        | cons c cs =>
          have blank : c = ' ' := by simpa [chars] using congrArg (·.toList.head?) text
          have dollar : c = '$' := by simpa [chars] using congrArg (·.toList.head?) text'
          exact absurd (blank.symm.trans dollar) (by decide)
      rw [front, String.empty_append, String.empty_append] at text
      rw [front, text]
  · obtain ⟨failure, fails⟩ | ⟨shared, agrees⟩ := statements_share_outline dialect (some 0) h
    · obtain rfl := Except.error.inj ((fails false "" _ start).symm.trans stopped)
      exact fails
    · cases (agrees "" _ start).1.symm.trans stopped

end QueryDialect
