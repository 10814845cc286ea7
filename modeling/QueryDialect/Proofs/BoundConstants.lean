import Mathlib.Data.List.Sort
import QueryDialect.Proofs.LookedUp

/-!
# Bound constants

A constant is bound where it is visited, unless its placeholder asks for its plain text. Rendering
binds the constants at the places it comes to, in depth-first order, whether it comes to the end or
not.
-/
namespace QueryDialect

open Text

/-- A constant at the place is bound with its value. The root is asked for its usual text. -/
inductive Renderer.Binds (r : Renderer) : Expr → Place → Value → Prop
  | root (type : ResultKind) (value : Value) (bound : r.options.inlineConstants = false) :
      Binds r (.constant type value) [] value
  | arg {e a : Expr} {t : Template} {position index : Nat} {modifier : Modifier} {span : Span}
      {place : Place} {value : Value} (template : e.template? r.dialect = some t)
      (placeholder : t.elements[position]? = some ⟨.argument index modifier, span⟩)
      (found : e.args[index]? = some a) (usual : place = [] → modifier.form = .usual)
      (within : Binds r a place value) : Binds r e (position :: place) value

namespace Renderer.Binds

variable {r : Renderer} {e : Expr} {place : Place} {value : Value}

lemma nil_iff :
    r.Binds e [] value ↔ r.options.inlineConstants = false ∧ ∃ type, e = .constant type value := by
  constructor
  · intro h
    cases h with
    | root type _ bound => exact ⟨bound, type, rfl⟩
  · rintro ⟨bound, type, rfl⟩
    exact .root type value bound

lemma not_nil_of_inner (inner : e.plainText? = none) : ¬r.Binds e [] value := by
  rw [nil_iff]
  rintro ⟨-, type, rfl⟩
  cases inner

lemma not_of_inlined (inlined : r.options.inlineConstants = true) : ¬r.Binds e place value := by
  intro h
  induction h with
  | root _ _ bound => simp [inlined] at bound
  | arg _ _ _ _ _ ih => exact ih

lemma eq_nil_of_template?_eq_none (h : r.Binds e place value)
    (none : e.template? r.dialect = none) : place = [] := by
  cases h with
  | root => rfl
  | arg template => simp [none] at template

lemma not_of_unexpanded (inner : e.plainText? = none) (none : e.template? r.dialect = none) :
    ¬r.Binds e place value := by
  intro h
  obtain rfl := h.eq_nil_of_template?_eq_none none
  exact not_nil_of_inner inner h

lemma eq_nil_of_leaf {text : String} (h : r.Binds e place value)
    (leaf : e.plainText? = some text) : place = [] := by
  refine h.eq_nil_of_template?_eq_none (Option.eq_none_iff_forall_ne_some.2 fun t template => ?_)
  simp [Expr.plainText?_of_template? template] at leaf

lemma exists_placeholder {t : Template} {position : Nat}
    (h : r.Binds e (position :: place) value) (template : e.template? r.dialect = some t) :
    ∃ index modifier span a, t.elements[position]? = some ⟨.argument index modifier, span⟩ ∧
      e.args[index]? = some a ∧ (place = [] → modifier.form = .usual) ∧ r.Binds a place value := by
  cases h with
  | arg template' placeholder found usual within =>
    obtain rfl := Option.some.inj (template.symm.trans template')
    exact ⟨_, _, _, _, placeholder, found, usual, within⟩

lemma cons_iff_of_found {t : Template} {position index : Nat} {modifier : Modifier} {span : Span}
    {a : Expr} (template : e.template? r.dialect = some t)
    (placeholder : t.elements[position]? = some ⟨.argument index modifier, span⟩)
    (found : e.args[index]? = some a) :
    r.Binds e (position :: place) value ↔
      (place = [] → modifier.form = .usual) ∧ r.Binds a place value := by
  constructor
  · intro h
    obtain ⟨index', modifier', span', a', placeholder', found', h⟩ := h.exists_placeholder template
    obtain ⟨⟨rfl, rfl⟩, -⟩ := by simpa using placeholder.symm.trans placeholder'
    rwa [Option.some.inj (found.symm.trans found')]
  · rintro ⟨usual, within⟩
    exact .arg template placeholder found usual within

/-- Nothing is violated where a constant stands. -/
lemma not_violates {depth : Nat} {stage : Stage} {failure : Failure} (h : r.Binds e place value) :
    ¬r.Violates depth e place stage failure := by
  induction h generalizing depth with
  | root => exact not_violates_of_leaf rfl
  | arg template placeholder found _ _ ih =>
    rw [violates_cons_of_found template placeholder found]
    exact ih

end Renderer.Binds

lemma Outcome.constants_append_of_ok {x : Outcome String} {head : String} (h : x.result = .ok head)
    (y : Outcome String) : (x.append y).constants = x.constants ++ y.constants := by
  rw [append, bind_of_ok h, bind_pure_comp, map_eq]

/-- The values that stand at places, in the order of these. -/
def ListsInOrder (standsAt : Place → Value → Prop) (values : List Value) : Prop :=
  ∃ entries : List (Place × Value), entries.Pairwise (fun a b => a.1 < b.1) ∧
    (∀ place value, (place, value) ∈ entries ↔ standsAt place value) ∧
      entries.map Prod.snd = values

/-- What stands behind each of the positions that are counted from the first one. -/
def BehindFrom (first : Nat) (standsAt : Nat → Place → Value → Prop) (place : Place)
    (value : Value) : Prop :=
  ∃ i rest, place = (first + i) :: rest ∧ standsAt i rest value

lemma behindFrom_iff {first : Nat} {standsAt : Nat → Place → Value → Prop} {place : Place}
    {value : Value} :
    BehindFrom first standsAt place value ↔ (∃ rest, place = first :: rest ∧ standsAt 0 rest value) ∨
      BehindFrom (first + 1) (fun i => standsAt (i + 1)) place value := by
  constructor
  · rintro ⟨_ | i, rest, rfl, h⟩
    · exact .inl ⟨rest, rfl, h⟩
    · exact .inr ⟨i, rest, by rw [Nat.add_right_comm, Nat.add_assoc], h⟩
  · rintro (⟨rest, rfl, h⟩ | ⟨i, rest, rfl, h⟩)
    · exact ⟨0, rest, rfl, h⟩
    · exact ⟨i + 1, rest, by rw [Nat.add_right_comm, Nat.add_assoc], h⟩

namespace ListsInOrder

variable {standsAt other : Place → Value → Prop} {values more : List Value}

/-- The order leaves nothing open. -/
lemma unique (h : ListsInOrder standsAt values) (ho : ListsInOrder standsAt more) :
    values = more := by
  obtain ⟨entries, ordered, mem_iff, rfl⟩ := h
  obtain ⟨entries', ordered', mem_iff', rfl⟩ := ho
  have : Std.Irrefl fun a b : Place × Value => a.1 < b.1 := ⟨fun a => lt_irrefl a.1⟩
  have same : entries = entries' := ordered.eq_of_mem_iff ordered' fun ⟨place, value⟩ => by
    rw [mem_iff, mem_iff']
  rw [same]

lemma congr (h : ListsInOrder standsAt values)
    (same : ∀ place value, standsAt place value ↔ other place value) :
    ListsInOrder other values := by
  obtain ⟨entries, ordered, mem_iff, listed⟩ := h
  exact ⟨entries, ordered, fun place value => (mem_iff place value).trans (same place value), listed⟩

lemma nil (none : ∀ place value, ¬standsAt place value) : ListsInOrder standsAt [] :=
  ⟨[], .nil, fun place value => iff_of_false List.not_mem_nil (none place value), rfl⟩

lemma singleton {value : Value}
    (only : ∀ place other, standsAt place other ↔ place = [] ∧ other = value) :
    ListsInOrder standsAt [value] :=
  ⟨[([], value)], List.pairwise_singleton .., fun place other => by simp [only], rfl⟩

lemma append (h : ListsInOrder standsAt values) (ho : ListsInOrder other more)
    (before : ∀ p v q w, standsAt p v → other q w → p < q) :
    ListsInOrder (fun place value => standsAt place value ∨ other place value) (values ++ more) := by
  obtain ⟨entries, ordered, mem_iff, rfl⟩ := h
  obtain ⟨entries', ordered', mem_iff', rfl⟩ := ho
  refine ⟨entries ++ entries', List.pairwise_append.2 ⟨ordered, ordered', ?_⟩, ?_, List.map_append⟩
  · rintro ⟨p, v⟩ hp ⟨q, w⟩ hq
    exact before p v q w ((mem_iff p v).1 hp) ((mem_iff' q w).1 hq)
  · intro place value
    rw [List.mem_append, mem_iff, mem_iff']

/-- Behind one position, the order is that of the rest of the places. -/
lemma behind (h : ListsInOrder standsAt values) (position : Nat) :
    ListsInOrder (fun place value => ∃ rest, place = position :: rest ∧ standsAt rest value)
      values := by
  obtain ⟨entries, ordered, mem_iff, rfl⟩ := h
  refine ⟨entries.map fun entry => (position :: entry.1, entry.2), ?_, fun place value => ?_, ?_⟩
  · rw [List.pairwise_map]
    exact ordered.imp fun lt => List.cons_lt_cons_iff.2 (.inr ⟨rfl, lt⟩)
  · simp only [List.mem_map, Prod.exists, Prod.mk.injEq, mem_iff]
    constructor
    · rintro ⟨rest, v, h, rfl, rfl⟩
      exact ⟨rest, rfl, h⟩
    · rintro ⟨rest, rfl, h⟩
      exact ⟨rest, value, h, rfl, rfl⟩
  · rw [List.map_map]
    rfl

/-- What comes behind the first position is listed in front of the rest. -/
lemma cons {first : Nat} {standsAt : Nat → Place → Value → Prop}
    (head : ListsInOrder (standsAt 0) values)
    (tail : ListsInOrder (BehindFrom (first + 1) fun i => standsAt (i + 1)) more) :
    ListsInOrder (BehindFrom first standsAt) (values ++ more) := by
  have before : ∀ p v q w, (∃ rest, p = first :: rest ∧ standsAt 0 rest v) →
      BehindFrom (first + 1) (fun i => standsAt (i + 1)) q w → p < q := by
    rintro p v q w ⟨place, rfl, -⟩ ⟨i, other, rfl, -⟩
    exact List.cons_lt_cons_iff.2 (.inl (by omega))
  exact ((head.behind first).append tail before).congr fun place value => behindFrom_iff.symm

/-- Elements are listed behind their positions, up to the first one that fails. -/
lemma renderAll {render : Element → Outcome String} {elements : List Element} (first : Nat)
    {standsAt : Nat → Place → Value → Prop}
    (element : ∀ i x, elements[i]? = some x → (∀ y ∈ elements.take i, (render y).Succeeds) →
      ListsInOrder (standsAt i) (render x).constants)
    (beyond : ∀ i rest value, standsAt i rest value →
      ∃ x, elements[i]? = some x ∧ ∀ y ∈ elements.take i, (render y).Succeeds) :
    ListsInOrder (BehindFrom first standsAt) (Template.renderAll render elements).constants := by
  induction elements generalizing first standsAt with
  | nil =>
    refine nil ?_
    rintro place value ⟨i, rest, -, h⟩
    obtain ⟨x, hx, -⟩ := beyond i rest value h
    cases hx
  | cons x rest ih =>
    have head := element 0 x rfl (by simp)
    rcases (render x).succeeds_or_error with succeeds | ⟨failure, fails⟩
    · have before {i : Nat} : (∀ y ∈ (x :: rest).take (i + 1), (render y).Succeeds) ↔
          ∀ y ∈ rest.take i, (render y).Succeeds := by
        rw [List.take_succ_cons, List.forall_mem_cons]
        exact and_iff_right succeeds
      have tail : ListsInOrder (BehindFrom (first + 1) fun i => standsAt (i + 1))
          (Template.renderAll render rest).constants := by
        refine ih (first + 1) (fun i y hy earlier => ?_) fun i place value h => ?_
        · exact element (i + 1) y hy (before.2 earlier)
        · obtain ⟨y, hy, earlier⟩ := beyond (i + 1) place value h
          exact ⟨y, hy, before.1 earlier⟩
      obtain ⟨text, hx⟩ := succeeds
      rw [Outcome.renderAll_cons, Outcome.constants_append_of_ok hx]
      exact head.cons tail
    · -- nothing behind the failing element is come to
      have tail : ListsInOrder (BehindFrom (first + 1) fun i => standsAt (i + 1)) [] := by
        refine nil ?_
        rintro place value ⟨i, other, -, h⟩
        obtain ⟨y, -, earlier⟩ := beyond (i + 1) other value h
        exact absurd (earlier x (by simp)) (Outcome.not_succeeds_of_error fails)
      have whole := head.cons tail
      rw [List.append_nil] at whole
      rwa [Outcome.renderAll_cons, Outcome.append_of_error fails]

end ListsInOrder

namespace Renderer

/-- The rendering comes to the place and binds the constant there. -/
def BindsReached (r : Renderer) (depth : Nat) (e : Expr) (place : Place) (value : Value) : Prop :=
  r.Binds e place value ∧ r.Reaches depth e place

variable {r : Renderer} {depth : Nat} {e : Expr}

section Node

variable {t : Template}

/-- What stands behind a placeholder is bound there if the rendering comes to it. -/
lemma listsInOrder_element (template : e.template? r.dialect = some t)
    (ih : ∀ a ∈ e.args, ∀ depth, ListsInOrder (r.BindsReached depth a) (r.outcome a depth).constants)
    (allowed : ∀ stage failure, ¬r.Violates depth e [] stage failure) {position : Nat} {x : Element}
    (hx : t.elements[position]? = some x)
    (before : ∀ y ∈ t.elements.take position, (r.elementOutcome t e.args (depth + 1) y).Succeeds) :
    ListsInOrder (fun place => r.BindsReached depth e (position :: place))
      (r.elementOutcome t e.args (depth + 1) x).constants := by
  obtain ⟨content, span⟩ := x
  cases content with
  | text verbatim =>
    refine .nil ?_
    rintro place value ⟨binds, -⟩
    obtain ⟨index, modifier, span', a, placeholder, -⟩ := binds.exists_placeholder template
    simp [hx] at placeholder
  | argument index modifier =>
    cases found : e.args[index]? with
    | none =>
      rw [elementOutcome_of_missing (List.getElem?_eq_none_iff.1 found)]
      refine .nil ?_
      rintro place value ⟨binds, -⟩
      obtain ⟨index', modifier', span', a, placeholder, found', -⟩ := binds.exists_placeholder template
      obtain ⟨⟨rfl, rfl⟩, -⟩ := by simpa using hx.symm.trans placeholder
      simp [found] at found'
    | some a =>
      have arg := ih a (List.mem_of_getElem? found) (depth + 1)
      have behind {place : Place} {value : Value} : r.BindsReached depth e (position :: place) value ↔
          (place = [] → modifier.form = .usual) ∧ r.BindsReached (depth + 1) a place value := by
        rw [BindsReached, Binds.cons_iff_of_found template hx found,
          reaches_cons_iff template hx found, and_iff_right allowed,
          and_iff_right ((succeeds_before_iff template).1 before), and_assoc]
        rfl
      rw [elementOutcome_eq_of_found found, Outcome.map_eq]
      cases form : modifier.form with
      | usual =>
        refine arg.congr fun place value => ?_
        rw [behind, and_iff_right fun _ => form]
      | plain =>
        cases leaf : a.plainText? with
        | none =>
          rw [outcomeAs_of_inner r leaf]
          refine arg.congr fun place value => ?_
          rw [behind, and_iff_right_of_imp]
          rintro binds rfl
          exact absurd binds.1 (Binds.not_nil_of_inner leaf)
        | some text =>
          rw [outcomeAs_of_leaf r leaf]
          refine .nil fun place value h => ?_
          obtain ⟨usual, binds⟩ := behind.1 h
          have asked := usual (binds.1.eq_nil_of_leaf leaf)
          rw [form] at asked
          cases asked

lemma listsInOrder_expand (template : e.template? r.dialect = some t)
    (ih : ∀ a ∈ e.args, ∀ depth, ListsInOrder
      (fun place value => r.Binds a place value ∧ r.Reaches depth a place)
      (r.outcome a depth).constants) :
    ListsInOrder (r.BindsReached depth e)
      (r.expandOutcome t (r.argOutcomes e.args) depth).constants := by
  have inner {value : Value} : ¬r.Binds e [] value :=
    Binds.not_nil_of_inner (Expr.plainText?_of_template? template)
  cases reached : r.limitReached? depth with
  | some limit =>
    have fault : r.Violates depth e [] .depth (.render { fault := .depthLimit limit }) :=
      (violates_nil_iff_of_template? template).2 ⟨rfl, limit, reached, rfl⟩
    rw [expandOutcome_of_reached reached]
    refine .nil ?_
    rintro place value ⟨binds, reaches⟩
    cases place with
    | nil => exact inner binds
    | cons position place => exact Place.not_cons_le_nil (reaches [] _ _ fault)
  | none =>
    have allowed (stage : Stage) (failure : Failure) : ¬r.Violates depth e [] stage failure := by
      simp [violates_nil_iff_of_template? template, reached]
    rw [expandOutcome_of_allowed reached]
    refine (ListsInOrder.renderAll 0 (fun position x => listsInOrder_element template ih allowed)
      fun position place value h => ?_).congr fun place value => ?_
    · obtain ⟨index, modifier, span, a, placeholder, found, -⟩ := h.1.exists_placeholder template
      obtain ⟨-, before, -⟩ := (reaches_cons_iff template placeholder found).1 h.2
      exact ⟨_, placeholder, (succeeds_before_iff template).2 before⟩
    · constructor
      · rintro ⟨position, rest, rfl, h⟩
        rwa [Nat.zero_add]
      · intro h
        cases place with
        | nil => exact absurd h.1 inner
        | cons position rest => exact ⟨position, rest, by rw [Nat.zero_add], h⟩

end Node

/-- Constants that are bound are those that are come to, in depth-first order. -/
theorem listsInOrder_outcome (r : Renderer) (e : Expr) (depth : Nat) :
    ListsInOrder (r.BindsReached depth e) (r.outcome e depth).constants := by
  induction e generalizing depth with
  | constant type value =>
    rw [outcome_constant, constantOutcome]
    cases inlined : r.options.inlineConstants with
    | true => exact .nil fun place other h => Binds.not_of_inlined inlined h.1
    | false =>
      refine .singleton fun place other => ⟨fun h => ?_, ?_⟩
      · obtain rfl := h.1.eq_nil_of_leaf rfl
        obtain ⟨-, type', same⟩ := Binds.nil_iff.1 h.1
        cases same
        exact ⟨rfl, rfl⟩
      · rintro ⟨rfl, rfl⟩
        exact ⟨.root type other inlined, reaches_nil⟩
  | path type path =>
    rw [outcome_path]
    refine .nil ?_
    rintro place value ⟨binds, -⟩
    obtain rfl := binds.eq_nil_of_leaf rfl
    obtain ⟨-, type', same⟩ := Binds.nil_iff.1 binds
    cases same
  | template type t args ih =>
    rw [outcome_template]
    exact listsInOrder_expand (e := .template type t args) rfl ih
  | operation type f args ih =>
    cases found : r.dialect f with
    | none =>
      have none := Expr.template?_of_missing found type args
      rw [outcome_operation_of_missing found]
      exact .nil fun place value h => Binds.not_of_unexpanded rfl none h.1
    | some pattern =>
      cases compiled : Template.compile pattern with
      | error error =>
        have none := Expr.template?_of_malformed found compiled type args
        rw [outcome_operation_of_malformed found compiled]
        exact .nil fun place value h => Binds.not_of_unexpanded rfl none h.1
      | ok t =>
        rw [outcome_operation_of_compile found compiled]
        exact listsInOrder_expand (Expr.template?_of_compile found compiled type args) ih

/-- Rendering comes to no place behind the first violation. -/
lemma IsFirst.reaches_iff {place other : Place} {stage : Stage} {failure : Failure}
    (first : IsFirst (r.Violates depth e) place stage failure) :
    r.Reaches depth e other ↔ other ≤ place := by
  constructor
  · intro reaches
    exact reaches place stage failure first.1
  · intro le later stage' failure' h
    rcases Prod.Lex.toLex_le_toLex.1 (first.2 later stage' failure' h) with lt | ⟨same, -⟩
    · exact le.trans lt.le
    · exact le.trans same.le

lemma listsInOrder_of_succeeds (succeeds : (r.outcome e depth).Succeeds) :
    ListsInOrder (r.Binds e) (r.outcome e depth).constants := by
  have none := succeeds_outcome_iff.1 succeeds
  exact (r.listsInOrder_outcome e depth).congr fun place value =>
    and_iff_left (reaches_of_not_violates none)

lemma listsInOrder_of_first {place : Place} {stage : Stage} {failure : Failure}
    (first : IsFirst (r.Violates depth e) place stage failure) :
    ListsInOrder (fun other value => r.Binds e other value ∧ other < place)
      (r.outcome e depth).constants := by
  refine (r.listsInOrder_outcome e depth).congr fun other value => and_congr_right fun binds => ?_
  rw [first.reaches_iff, le_iff_lt_or_eq, or_iff_left]
  rintro rfl
  exact binds.not_violates first.1

lemma constants_outcome_of_inlined (inlined : r.options.inlineConstants = true) (e : Expr)
    (depth : Nat) : (r.outcome e depth).constants = [] :=
  (r.listsInOrder_outcome e depth).unique (.nil fun _ _ h => Binds.not_of_inlined inlined h.1)

end Renderer

end QueryDialect
