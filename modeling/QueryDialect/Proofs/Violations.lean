import Mathlib.Data.Prod.Lex
import QueryDialect.Proofs.Meaning
import QueryDialect.Proofs.Visits

/-!
# Violated conditions

Every visited node has to meet some conditions. A violation has a place, a stage and the failure it
is reported by. Violations come in the depth-first order of their places, and at one place in the
order of the stages.
-/
namespace QueryDialect

open Text

/-- What has to hold at a place, in this order: there is an argument, its operator has a pattern, the
pattern compiles, and the place is not too deep. -/
inductive Stage where
  | argument | pattern | compilation | depth
  deriving DecidableEq, Repr

namespace Stage

def rank : Stage → Nat
  | argument => 0
  | pattern => 1
  | compilation => 2
  | depth => 3

lemma rank_injective : Function.Injective rank := by
  intro a b h
  cases a <;> cases b <;> first | rfl | cases h

instance : LinearOrder Stage := .lift' rank rank_injective

end Stage

namespace Renderer

/-- A condition that a node of this depth violates, and the failure that reports it. The place is
counted from the node: a placeholder without an argument is a fault of the place where the argument
would be. -/
inductive NodeFault (r : Renderer) (depth : Nat) : Expr → Place → Stage → Failure → Prop
  | argument {s : Expr} {t : Template} {position index : Nat} {modifier : Modifier} {span : Span}
      (template : s.template? r.dialect = some t)
      (placeholder : t.elements[position]? = some ⟨.argument index modifier, span⟩)
      (missing : s.args.length ≤ index) :
      NodeFault r depth s [position] .argument
        (.render {
          fault := .indexOutOfRange index s.args.length (.template t.source)
          span := some span })
  | pattern {f : Operator} (type : ResultKind) (args : List Expr) (missing : r.dialect f = none) :
      NodeFault r depth (.operation type f args) [] .pattern
        (.render { fault := .missingTemplate f.name })
  | compilation {f : Operator} {pattern : String} {error : PatternError} (type : ResultKind)
      (args : List Expr) (found : r.dialect f = some pattern)
      (malformed : Template.compile pattern = .error error) :
      NodeFault r depth (.operation type f args) [] .compilation (.compile error)
  | depth {s : Expr} {limit : Nat} (inner : s.plainText? = none)
      (limited : r.options.depthLimit = some limit) (deep : limit ≤ depth) :
      NodeFault r depth s [] .depth (.render { fault := .depthLimit limit })

/-- A fault of a visited node. The root of the expression stands at the given depth, and every node
on the way to a place is one level. -/
def Violates (r : Renderer) (depth : Nat) (e : Expr) (place : Place) (stage : Stage)
    (failure : Failure) : Prop :=
  ∃ outer s inner, place = outer ++ inner ∧ Visits r.dialect e outer s ∧
    r.NodeFault (depth + outer.length) s inner stage failure

/-- The violation that comes before all others. -/
def IsFirst (violates : Place → Stage → Failure → Prop) (place : Place) (stage : Stage)
    (failure : Failure) : Prop :=
  violates place stage failure ∧ ∀ other later failure,
    violates other later failure → toLex (place, stage) ≤ toLex (other, later)

/-- What a node of this depth has to meet. -/
structure Permits (r : Renderer) (depth : Nat) (s : Expr) : Prop where
  compiles : ∀ f, s.operator? = some f →
    ∃ pattern t, r.dialect f = some pattern ∧ Template.compile pattern = .ok t
  within_limit : s.plainText? = none → ∀ limit, r.options.depthLimit = some limit → depth < limit
  in_range : ∀ t, s.template? r.dialect = some t → ∀ x ∈ t.elements, ∀ index modifier,
    x.content = .argument index modifier → index < s.args.length

variable {r : Renderer} {depth : Nat} {e : Expr} {place : Place} {stage : Stage} {failure : Failure}

namespace NodeFault

lemma length_eq (h : r.NodeFault depth e place stage failure) :
    place.length = if stage = .argument then 1 else 0 := by
  cases h <;> rfl

/-- A place and a stage have at most one failure. -/
lemma unique {other : Failure} (h : r.NodeFault depth e place stage failure)
    (ho : r.NodeFault depth e place stage other) : failure = other := by
  cases h with
  | argument template placeholder missing =>
    cases ho with
    | argument template' placeholder' missing' =>
      obtain rfl := Option.some.inj (template.symm.trans template')
      obtain ⟨⟨rfl, rfl⟩, rfl⟩ := by simpa using placeholder.symm.trans placeholder'
      rfl
  | pattern type args missing =>
    cases ho with
    | pattern => rfl
  | compilation type args found malformed =>
    cases ho with
    | compilation _ _ found' malformed' =>
      obtain rfl := Option.some.inj (found.symm.trans found')
      obtain rfl := Except.error.inj (malformed.symm.trans malformed')
      rfl
  | depth inner limited deep =>
    cases ho with
    | depth inner' limited' deep' =>
      obtain rfl := Option.some.inj (limited.symm.trans limited')
      rfl

lemma not_of_leaf {text : String} (leaf : e.plainText? = some text) :
    ¬r.NodeFault depth e place stage failure := by
  intro h
  cases h with
  | argument template => simp [Expr.plainText?_of_template? template] at leaf
  | pattern => cases leaf
  | compilation => cases leaf
  | depth inner => simp [inner] at leaf

/-- A node that a template renders can only be too deep itself. -/
lemma nil_iff_of_template? {t : Template} (template : e.template? r.dialect = some t) :
    r.NodeFault depth e [] stage failure ↔ stage = .depth ∧ ∃ limit,
      r.limitReached? depth = some limit ∧ failure = .render { fault := .depthLimit limit } := by
  constructor
  · intro h
    cases h with
    | pattern type args missing => simp [Expr.template?_of_missing missing] at template
    | compilation type args found malformed =>
      simp [Expr.template?_of_malformed found malformed] at template
    | depth inner limited deep =>
      exact ⟨rfl, _, r.limitReached?_eq_some_iff.2 ⟨limited, deep⟩, rfl⟩
  · rintro ⟨rfl, limit, reached, rfl⟩
    obtain ⟨limited, deep⟩ := r.limitReached?_eq_some_iff.1 reached
    exact .depth (Expr.plainText?_of_template? template) limited deep

end NodeFault

lemma permits_iff :
    r.Permits depth e ↔ ∀ place stage failure, ¬r.NodeFault depth e place stage failure := by
  constructor
  · intro permits place stage failure h
    cases h with
    | argument template placeholder missing =>
      have within := permits.in_range _ template _ (List.mem_of_getElem? placeholder) _ _ rfl
      omega
    | pattern _ _ missing =>
      obtain ⟨pattern, t, found, -⟩ := permits.compiles _ rfl
      simp [missing] at found
    | compilation _ _ found malformed =>
      obtain ⟨pattern, t, found', compiled⟩ := permits.compiles _ rfl
      obtain rfl := Option.some.inj (found.symm.trans found')
      simp [malformed] at compiled
    | depth inner limited deep =>
      have within := permits.within_limit inner _ limited
      omega
  · intro none
    refine ⟨fun f hf => ?_, fun inner limit limited => ?_, fun t template x mem index modifier hx => ?_⟩
    · cases e with
      | constant => cases hf
      | path => cases hf
      | template => cases hf
      | operation type g args =>
        obtain rfl := Option.some.inj hf
        cases found : r.dialect g with
        | none => exact absurd (.pattern type args found) (none _ _ _)
        | some pattern =>
          cases compiled : Template.compile pattern with
          | error error => exact absurd (.compilation type args found compiled) (none _ _ _)
          | ok t => exact ⟨pattern, t, rfl, compiled⟩
    · by_contra deep
      exact none _ _ _ (.depth inner limited (Nat.le_of_not_lt deep))
    · by_contra missing
      obtain ⟨content, span⟩ := x
      obtain rfl : content = .argument index modifier := hx
      obtain ⟨position, placeholder⟩ := List.mem_iff_getElem?.1 mem
      exact none _ _ _ (.argument template placeholder (Nat.le_of_not_lt missing))

/-- A violation in a visited node is one in the whole expression. -/
lemma Violates.within {s : Expr} {outer : Place} (visited : Visits r.dialect e outer s)
    (h : r.Violates (depth + outer.length) s place stage failure) :
    r.Violates depth e (outer ++ place) stage failure := by
  obtain ⟨middle, u, inner, rfl, within, fault⟩ := h
  refine ⟨outer ++ middle, u, inner, (List.append_assoc ..).symm, visited.trans within, ?_⟩
  rwa [List.length_append, ← Nat.add_assoc]

lemma Violates.unique {other : Failure} (h : r.Violates depth e place stage failure)
    (ho : r.Violates depth e place stage other) : failure = other := by
  obtain ⟨outer, s, inner, rfl, visited, fault⟩ := h
  obtain ⟨outer', s', inner', hp, visited', fault'⟩ := ho
  obtain ⟨rfl, rfl⟩ := List.append_inj' hp (fault.length_eq.trans fault'.length_eq.symm)
  rw [visited'.unique visited] at fault'
  exact fault.unique fault'

lemma violates_nil_iff :
    r.Violates depth e [] stage failure ↔ r.NodeFault depth e [] stage failure := by
  constructor
  · rintro ⟨outer, s, inner, hp, visited, fault⟩
    obtain ⟨rfl, rfl⟩ := List.append_eq_nil_iff.1 hp.symm
    rwa [Visits.nil_iff.1 visited] at fault
  · intro fault
    exact ⟨[], e, [], rfl, .root e, fault⟩

lemma violates_nil_iff_of_template? {t : Template} (template : e.template? r.dialect = some t) :
    r.Violates depth e [] stage failure ↔ stage = .depth ∧ ∃ limit,
      r.limitReached? depth = some limit ∧ failure = .render { fault := .depthLimit limit } :=
  violates_nil_iff.trans (NodeFault.nil_iff_of_template? template)

lemma violates_cons_iff {position : Nat} :
    r.Violates depth e (position :: place) stage failure ↔ ∃ t index modifier span,
      e.template? r.dialect = some t ∧
        t.elements[position]? = some ⟨.argument index modifier, span⟩ ∧
          (e.args.length ≤ index ∧ place = [] ∧ stage = .argument ∧
              failure = .render (t.missingArgument index e.args.length span) ∨
            ∃ a, e.args[index]? = some a ∧ r.Violates (depth + 1) a place stage failure) := by
  constructor
  · rintro ⟨outer, s, inner, hp, visited, fault⟩
    cases outer with
    | nil =>
      obtain rfl := Visits.nil_iff.1 visited
      obtain rfl : position :: place = inner := hp
      cases fault with
      | argument template placeholder missing =>
        exact ⟨_, _, _, _, template, placeholder, .inl ⟨missing, rfl, rfl, rfl⟩⟩
    | cons i outer =>
      obtain ⟨rfl, rfl⟩ := List.cons.inj hp
      obtain ⟨t, index, modifier, span, a, template, placeholder, found, within⟩ :=
        Visits.cons_iff.1 visited
      rw [List.length_cons, Nat.add_comm outer.length, ← Nat.add_assoc] at fault
      exact ⟨t, index, modifier, span, template, placeholder, .inr ⟨a, found, _, s, _, rfl, within, fault⟩⟩
  · rintro ⟨t, index, modifier, span, template, placeholder, ⟨missing, rfl, rfl, rfl⟩ | ⟨a, found, h⟩⟩
    · exact ⟨[], e, _, rfl, .root e, .argument template placeholder missing⟩
    · exact h.within (.arg template placeholder found (.root a))

lemma violates_cons_of_found {t : Template} {position index : Nat} {modifier : Modifier}
    {span : Span} {a : Expr} (template : e.template? r.dialect = some t)
    (placeholder : t.elements[position]? = some ⟨.argument index modifier, span⟩)
    (found : e.args[index]? = some a) :
    r.Violates depth e (position :: place) stage failure ↔
      r.Violates (depth + 1) a place stage failure := by
  refine ⟨fun h => ?_, fun h => h.within (.arg template placeholder found (.root a))⟩
  obtain ⟨t', index', modifier', span', template', placeholder', h⟩ := violates_cons_iff.1 h
  obtain rfl := Option.some.inj (template.symm.trans template')
  obtain ⟨⟨rfl, -⟩, -⟩ := by simpa using placeholder.symm.trans placeholder'
  rcases h with ⟨missing, -⟩ | ⟨a', found', h⟩
  · rw [List.getElem?_eq_none missing] at found
    cases found
  · rwa [Option.some.inj (found.symm.trans found')]

lemma not_violates_of_template?_eq_none (none : e.template? r.dialect = none) {position : Nat} :
    ¬r.Violates depth e (position :: place) stage failure := by
  rw [violates_cons_iff]
  rintro ⟨t, _, _, _, template, _⟩
  simp [none] at template

lemma not_violates_of_leaf {text : String} (leaf : e.plainText? = some text) :
    ¬r.Violates depth e place stage failure := by
  cases place with
  | nil =>
    rw [violates_nil_iff]
    exact NodeFault.not_of_leaf leaf
  | cons position place =>
    refine not_violates_of_template?_eq_none (Option.eq_none_iff_forall_ne_some.2 fun t template => ?_)
    simp [Expr.plainText?_of_template? template] at leaf

/-- Nothing is violated if and only if every visited node is permitted where it stands. -/
lemma forall_not_violates_iff (r : Renderer) (depth : Nat) (e : Expr) :
    (∀ place stage failure, ¬r.Violates depth e place stage failure) ↔
      ∀ place s, Visits r.dialect e place s → r.Permits (depth + place.length) s := by
  simp only [permits_iff]
  constructor
  · intro none outer s visited inner stage failure fault
    exact none _ _ _ ⟨outer, s, inner, rfl, visited, fault⟩
  · rintro none _ stage failure ⟨outer, s, inner, rfl, visited, fault⟩
    exact none outer s visited inner stage failure fault

/-! Violations in order: by place, then by stage. -/

lemma toLex_cons_le_of_lt {i j : Nat} (h : i < j) (place other : Place) (stage later : Stage) :
    toLex (i :: place, stage) ≤ toLex (j :: other, later) :=
  Prod.Lex.toLex_le_toLex.2 (.inl (List.cons_lt_cons_iff.2 (.inl h)))

lemma toLex_cons_le_iff {place other : Place} {stage later : Stage} {position : Nat} :
    toLex (position :: place, stage) ≤ toLex (position :: other, later) ↔
      toLex (place, stage) ≤ toLex (other, later) := by
  simp only [Prod.Lex.toLex_le_toLex, List.cons_lt_cons_iff, List.cons.injEq, lt_irrefl, true_and,
    false_or]

lemma toLex_append_le_iff {outer place other : Place} {stage later : Stage} :
    toLex (outer ++ place, stage) ≤ toLex (outer ++ other, later) ↔
      toLex (place, stage) ≤ toLex (other, later) := by
  induction outer with
  | nil => rfl
  | cons position outer ih => exact toLex_cons_le_iff.trans ih

/-- A violation at the root is first if those behind it at the root come at later stages. -/
lemma toLex_nil_le {stage later : Stage} {other : Place} (h : other = [] → stage ≤ later) :
    toLex (([] : Place), stage) ≤ toLex (other, later) := by
  refine Prod.Lex.toLex_le_toLex.2 ?_
  cases other with
  | nil => exact .inr ⟨rfl, h rfl⟩
  | cons i other => exact .inl (List.nil_lt_cons i other)

section First

variable {violates : Place → Stage → Failure → Prop}

lemma IsFirst.toLex_eq {other : Place} {later : Stage} {g : Failure}
    (h : IsFirst violates place stage failure) (ho : IsFirst violates other later g) :
    place = other ∧ stage = later := by
  have same := le_antisymm (h.2 other later g ho.1) (ho.2 place stage failure h.1)
  exact Prod.mk.inj (toLex.injective same)

/-- Nothing is violated at earlier placeholders of the nodes on the way to the first violation. -/
lemma IsFirst.not_before {outer : Place} {position : Nat}
    (h : IsFirst violates (outer ++ position :: place) stage failure) {i : Nat} (lt : i < position)
    (other : Place) (later : Stage) (g : Failure) : ¬violates (outer ++ i :: other) later g := by
  intro hg
  have hle := toLex_append_le_iff.1 (h.2 _ later g hg)
  rcases Prod.Lex.toLex_le_toLex.1 hle with before | ⟨same, -⟩
  · rcases List.cons_lt_cons_iff.1 before with gt | ⟨same, -⟩
    · exact absurd lt gt.asymm
    · exact absurd same lt.ne'
  · exact absurd (List.cons.inj same).1 lt.ne'

end First

end Renderer

end QueryDialect
