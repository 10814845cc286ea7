import Mathlib.Data.List.Basic
import Mathlib.Data.List.Induction
import QueryDialect.Expr.Term
import QueryDialect.Proofs.Meaning
import QueryDialect.Proofs.OperatorNumbers

/-!
# Registered patterns

Patterns are registered for operators one after another. A table by number has the last pattern that
was registered for an operator, and nothing registered for others matters to it. A table by name has
the last pattern that was registered under the name, whichever operator it was meant for. Statements
show no difference between them as long as no two operators share a name and none has two names,
which is so until the counter of new operators begins again.
-/
namespace QueryDialect

/-- No two different operators among these share a name. -/
def Operator.Unambiguous (among : Operator → Prop) : Prop :=
  ∀ f g, among f → among g → f.name = g.name → (f == g) = true

/-- No operator among these has two names. -/
def Operator.OneNamed (among : Operator → Prop) : Prop :=
  ∀ f g, among f → among g → (f == g) = true → f.name = g.name

lemma Operator.Identified.oneNamed {among : Operator → Prop} (h : Operator.Identified among) :
    Operator.OneNamed among :=
  fun f g hf hg same => congrArg Operator.name (h f g hf hg same)

/-- Where names and operators belong together one by one, operators can be compared by name. -/
lemma Operator.beq_eq_name_beq {among : Operator → Prop} (oneNamed : Operator.OneNamed among)
    (unambiguous : Operator.Unambiguous among) {f g : Operator} (hf : among f) (hg : among g) :
    (f == g) = (f.name == g.name) := by
  rw [Bool.eq_iff_iff, beq_iff_eq (a := f.name)]
  exact ⟨oneNamed f g hf hg, unambiguous f g hf hg⟩

namespace PatternTable

variable {κ : Type} [BEq κ]

/-- The table filled by registering these patterns in order, under keys of their operators. -/
def registered (key : Operator → κ) (registrations : List (Operator × String)) : PatternTable κ :=
  registrations.foldl (fun table x => table.add (key x.1) x.2) .empty

/-- The last pattern registered under a key is the one that is found. -/
lemma find?_registered (key : Operator → κ) (registrations : List (Operator × String)) (k : κ) :
    (registered key registrations).find? k =
      ((registrations.filter fun x => k == key x.1).getLast?).map Prod.snd := by
  induction registrations using List.reverseRecOn with
  | nil => rfl
  | append_singleton earlier x ih =>
    have step : registered key (earlier ++ [x]) = (registered key earlier).add (key x.1) x.2 := by
      simp only [registered, List.foldl_append, List.foldl_cons, List.foldl_nil]
    rw [step, find?_add, List.filter_append]
    cases h : k == key x.1 with
    | false => simpa [h] using ih
    | true => simp [h]

end PatternTable

/-- The pattern registered last for an operator. -/
def lastPattern? (registrations : List (Operator × String)) (f : Operator) : Option String :=
  ((registrations.filter fun x => f == x.1).getLast?).map Prod.snd

/-- Operators applied in the expression or registered with a pattern. -/
def Concerned (registrations : List (Operator × String)) (e : Expr) (f : Operator) : Prop :=
  e.Applies f ∨ f ∈ registrations.map Prod.fst

/-- Registrations of operators that are not the given one can be left out. -/
lemma lastPattern?_filter {registrations : List (Operator × String)}
    {kept : Operator × String → Bool} {f : Operator}
    (others : ∀ x ∈ registrations, kept x = false → (f == x.1) = false) :
    lastPattern? (registrations.filter kept) f = lastPattern? registrations f := by
  rw [lastPattern?, List.filter_filter, lastPattern?]
  congr 2
  refine List.filter_congr fun x mem => ?_
  cases h : kept x with
  | false => rw [others x mem h, Bool.false_and]
  | true => rw [Bool.and_true]

/-- Registrations of different operators can change places. -/
lemma lastPattern?_swap (earlier later : List (Operator × String)) {x y : Operator × String}
    (different : (x.1 == y.1) = false) (f : Operator) :
    lastPattern? (earlier ++ y :: x :: later) f = lastPattern? (earlier ++ x :: y :: later) f := by
  have notBoth : (f == x.1) = false ∨ (f == y.1) = false := by
    rw [Operator.beq_def] at different
    by_contra both
    simp only [not_or, Bool.not_eq_false, Operator.beq_def, beq_iff_eq] at both
    rw [← both.1, ← both.2, beq_self_eq_true] at different
    cases different
  unfold lastPattern?
  rcases notBoth with h | h <;> simp [List.filter_append, List.filter_cons, h]

namespace Renderer

lemma renderArgs_congr {r r' : Renderer} {args : List Expr}
    (h : ∀ a ∈ args, r.renderExpr a = r'.renderExpr a) :
    r.renderArgs args = r'.renderArgs args := by
  rw [renderArgs_eq_map, renderArgs_eq_map]
  exact List.map_congr_left fun a mem => congrArg (renderArg a) (h a mem)

variable {r : Renderer} {other : Dialect} {e : Expr}

/-- Dialects that agree on the operators that are applied render the expression in the same way. -/
lemma renderExpr_congr (h : ∀ f, e.Applies f → r.dialect f = other f) :
    r.renderExpr e = ({ r with dialect := other } : Renderer).renderExpr e := by
  induction e with
  | constant type value => rfl
  | path type path => rfl
  | operation type f args ih =>
    have found : r.templateFor f = ({ r with dialect := other } : Renderer).templateFor f := by
      simp only [templateFor, h f (Expr.applies_operation type f args)]
    rw [renderExpr, renderExpr, found,
      renderArgs_congr fun a mem => ih a mem fun g hg => h g (hg.arg mem)]
    rfl
  | template type t args ih =>
    rw [renderExpr, renderExpr,
      renderArgs_congr fun a mem => ih a mem fun g hg => h g (hg.arg mem)]
    rfl

lemma statement_congr (h : ∀ f, e.Applies f → r.dialect f = other f) (store : TemplateStore) :
    r.statement e store = ({ r with dialect := other } : Renderer).statement e store := by
  unfold statement finish
  rw [renderExpr_congr h]

/-- Renders with the patterns that were registered for the operators themselves. -/
def byNumber (registrations : List (Operator × String)) (options : RenderOptions) : Renderer :=
  ⟨(PatternTable.registered Operator.id registrations).byNumber, options⟩

/-- Renders with the patterns that were registered under the names of the operators. -/
def byName (registrations : List (Operator × String)) (options : RenderOptions) : Renderer :=
  ⟨(PatternTable.registered Operator.name registrations).byName, options⟩

lemma dialect_byNumber (registrations : List (Operator × String)) (options : RenderOptions) :
    (byNumber registrations options).dialect = lastPattern? registrations :=
  funext fun f => PatternTable.find?_registered Operator.id registrations f.id

lemma dialect_byName (registrations : List (Operator × String)) (options : RenderOptions)
    (f : Operator) : (byName registrations options).dialect f =
      ((registrations.filter fun x => f.name == x.1.name).getLast?).map Prod.snd :=
  PatternTable.find?_registered Operator.name registrations f.name

lemma statement_byNumber_congr {registrations others : List (Operator × String)}
    (h : ∀ f, e.Applies f → lastPattern? others f = lastPattern? registrations f)
    (options : RenderOptions) (store : TemplateStore) :
    (byNumber others options).statement e store =
      (byNumber registrations options).statement e store := by
  have agree : ∀ f, e.Applies f →
      (byNumber others options).dialect f = (byNumber registrations options).dialect f := by
    simpa only [dialect_byNumber] using h
  exact statement_congr agree store

/-- Patterns registered for operators and patterns registered under their names make one statement
of the expression and leave one store behind, whatever the options and the store before. -/
def TablesAgree (registrations : List (Operator × String)) (e : Expr) : Prop :=
  ∀ options store, (byNumber registrations options).statement e store =
    (byName registrations options).statement e store

lemma tablesAgree {registrations : List (Operator × String)}
    (oneNamed : Operator.OneNamed (Concerned registrations e))
    (unambiguous : Operator.Unambiguous (Concerned registrations e)) :
    TablesAgree registrations e := by
  intro options store
  have agree : ∀ f, e.Applies f →
      (byNumber registrations options).dialect f = (byName registrations options).dialect f := by
    intro f applied
    rw [dialect_byNumber, dialect_byName, lastPattern?]
    congr 2
    refine List.filter_congr fun x mem => ?_
    have concerned : Concerned registrations e x.1 := .inr (List.mem_map_of_mem mem)
    exact Operator.beq_eq_name_beq oneNamed unambiguous (.inl applied) concerned
  exact statement_congr agree store

lemma eq_of_concerned {f g h : Operator} {pattern : String} {type : ResultKind}
    (concerned : Concerned [(f, pattern)] (.operation type g []) h) : h = g ∨ h = f := by
  rcases concerned with applied | registered
  · exact .inl (by simpa using applied)
  · exact .inr (List.mem_singleton.1 registered)

/-- An empty pattern that is registered for an operator under one name is not found under another
one. -/
lemma not_tablesAgree {f g : Operator} (same : (g == f) = true) (names : g.name ≠ f.name)
    (type : ResultKind) : ¬TablesAgree [(f, "")] (.operation type g []) := by
  intro agree
  have one := congrArg Prod.fst (agree {} (.empty 0))
  have found : (byNumber [(f, "")] {}).dialect g = some "" := by
    rw [dialect_byNumber]
    simp [lastPattern?, same]
  have missing : (byName [(f, "")] {}).dialect g = none := by
    rw [dialect_byName]
    simp [names]
  have empty : Template.compile "" = .ok ⟨"", []⟩ := by decide +kernel
  have start : (TemplateStore.empty 0).Reachable := .empty 0
  rw [start.statement_fst, start.statement_fst, outcome_operation_of_compile found empty,
    outcome_operation_of_missing missing] at one
  cases one

/-- Patterns under numbers and patterns under names agree on everything over some operators just
when names and operators belong together one by one. -/
lemma tablesAgree_iff {among : Operator → Prop} (unambiguous : Operator.Unambiguous among) :
    (∀ registrations e, (∀ f, Concerned registrations e f → among f) →
      TablesAgree registrations e) ↔ Operator.OneNamed among := by
  constructor
  · intro agree f g hf hg same
    by_contra names
    refine not_tablesAgree same names f.result (agree _ _ fun h concerned => ?_)
    rcases eq_of_concerned concerned with rfl | rfl
    · exact hf
    · exact hg
  · intro oneNamed registrations e concerned
    exact tablesAgree (fun f g hf hg => oneNamed f g (concerned f hf) (concerned g hg))
      fun f g hf hg => unambiguous f g (concerned f hf) (concerned g hg)

/-- Patterns registered for operators and patterns registered under their names make the same
statements, and leave the same store behind, if no two of the operators concerned share a name and
none of them has two names. Among operators that share no name the second condition cannot be left
out. It holds of the built-in operators together with those that are made while their counter has
room.

Whatever the names are, patterns registered for operators count by the last one of each operator
that is applied. Any registrations of other operators can be left out, and neighbours of different
operators can change places. -/
theorem statement_of_registrations (registrations : List (Operator × String)) (e : Expr) :
    (Operator.OneNamed (Concerned registrations e) →
      Operator.Unambiguous (Concerned registrations e) → TablesAgree registrations e) ∧
    (∀ among, Operator.Unambiguous among →
      ((∀ others e', (∀ f, Concerned others e' f → among f) → TablesAgree others e') ↔
        Operator.OneNamed among)) ∧
    (∀ requests : List (ResultType × String), requests.length ≤ OperatorSupply.room →
      Operator.OneNamed fun f =>
        ∃ x ∈ Builtin.all ++ OperatorSupply.initial.createAll requests, x.2.toOperator = f) ∧
    ∀ options store,
      (∀ others, (∀ f, e.Applies f → lastPattern? others f = lastPattern? registrations f) →
        (byNumber others options).statement e store =
          (byNumber registrations options).statement e store) ∧
      (∀ kept : Operator × String → Bool,
        (∀ x ∈ registrations, kept x = false → ∀ f, e.Applies f → (f == x.1) = false) →
        (byNumber (registrations.filter kept) options).statement e store =
          (byNumber registrations options).statement e store) ∧
      ∀ earlier x y later, registrations = earlier ++ x :: y :: later → (x.1 == y.1) = false →
        (byNumber (earlier ++ y :: x :: later) options).statement e store =
          (byNumber registrations options).statement e store := by
  refine ⟨tablesAgree, fun among => tablesAgree_iff,
    fun requests room => (OperatorSupply.identified_created room).oneNamed, fun options store =>
      ⟨fun others same => statement_byNumber_congr same options store, fun kept unused => ?_, ?_⟩⟩
  · exact statement_byNumber_congr (fun f applied => lastPattern?_filter fun x mem left =>
      unused x mem left f applied) options store
  · rintro earlier x y later rfl different
    exact statement_byNumber_congr (fun f _ => lastPattern?_swap earlier later different f)
      options store

/-- By number, the patterns of a new operator that is named as a built-in one are left out without
a trace, or registered in another order. By name they replace the others. -/
theorem statement_of_registrations_namesake :
    let eq := Builtin.eq.toOperator
    let namesake := (OperatorSupply.initial.create .bool "EQ").1.toOperator
    let e := ((Term.ofPath .string ⟨["t", "name"]⟩).lower.eq (Term.ofString "x")).expr
    let own := [(eq, "{1}"), (Builtin.lower.toOperator, "lower({0})"), (eq, "{0} = {1}")]
    let mixed := (namesake, "{0} is {1}") :: own ++ [(namesake, "{0} eq {1}")]
    let store := TemplateStore.empty 0
    Operator.OneNamed (Concerned own e) ∧ Operator.Unambiguous (Concerned own e) ∧
      TablesAgree own e ∧
      (byNumber mixed {}).statement e store = (byNumber own {}).statement e store ∧
      (byNumber ([(eq, "{1}"), (namesake, "{0} is {1}")] ++ mixed.drop 2) {}).statement e store =
        (byNumber mixed {}).statement e store ∧
      ((byNumber mixed {}).statement e store).1 = .ok ⟨"lower(t.name) = ?", [.string "x"]⟩ ∧
      ((byName mixed {}).statement e store).1 = .ok ⟨"lower(t.name) eq ?", [.string "x"]⟩ := by
  intro eq namesake e own mixed store
  have applied : ∀ f, e.Applies f → f = eq ∨ f = Builtin.lower.toOperator := by
    intro f h
    simpa [e, Term.eq, Term.lower, Term.binary, Term.unary, Term.apply, Term.ofPath,
      Term.ofString] using h
  have concerned : ∀ f, Concerned own e f → f = eq ∨ f = Builtin.lower.toOperator := by
    rintro f (h | h)
    · exact applied f h
    · obtain h | h | h : f = eq ∨ f = Builtin.lower.toOperator ∨ f = eq := by simpa [own] using h
      exacts [.inl h, .inr h, .inl h]
  obtain ⟨agree, -, made, -⟩ := statement_of_registrations own e
  have builtin : ∀ f, Concerned own e f →
      ∃ x ∈ Builtin.all ++ OperatorSupply.initial.createAll [], x.2.toOperator = f := by
    intro f h
    rcases concerned f h with rfl | rfl
    · exact ⟨⟨.bool, Builtin.eq⟩, by simp [Builtin.all], rfl⟩
    · exact ⟨⟨.string, Builtin.lower⟩, by simp [Builtin.all], rfl⟩
  have oneNamed : Operator.OneNamed (Concerned own e) :=
    fun f g hf hg => made [] (Nat.zero_le _) f g (builtin f hf) (builtin g hg)
  have unambiguous : Operator.Unambiguous (Concerned own e) := by
    intro f g hf hg same
    rcases concerned f hf with rfl | rfl <;> rcases concerned g hg with rfl | rfl
    · rfl
    · exact absurd same (by decide)
    · exact absurd same (by decide)
    · rfl
  have unused : ∀ x ∈ mixed, (!(namesake == x.1)) = false →
      ∀ f, e.Applies f → (f == x.1) = false := by
    intro x mem left f hf
    rw [Bool.not_eq_false', Operator.beq_def, beq_iff_eq] at left
    rw [Operator.beq_def, ← left]
    rcases applied f hf with rfl | rfl <;> rfl
  obtain ⟨-, drop, swap⟩ := (statement_of_registrations mixed e).2.2.2 {} store
  refine ⟨oneNamed, unambiguous, agree oneNamed unambiguous, ?_, ?_, ?_, ?_⟩
  · exact (drop _ unused).symm
  · exact swap [] (namesake, "{0} is {1}") (eq, "{1}") (mixed.drop 2) rfl rfl
  · decide +kernel
  · decide +kernel

/-- The operator that comes second after the counter has begun again has the number of a built-in
one and a name of its own. No two operators share a name, and yet by number a pattern for the one
takes the place of the other's. -/
theorem statement_of_registrations_past_room :
    let made := OperatorSupply.initial.createAll
      (List.replicate (OperatorSupply.room + 2) (.bool, "MATCHES"))
    let e := ((Term.ofPath .string ⟨["t", "name"]⟩).eq (Term.ofString "x")).expr
    ∃ f, made[OperatorSupply.room + 1]? = some f ∧
      let registrations :=
        [(Builtin.eq.toOperator, "{0} = {1}"), (f.2.toOperator, "{0} matches {1}")]
      (∀ g h, Concerned registrations e g → Concerned registrations e h → g.name = h.name →
        g = h) ∧ Operator.Unambiguous (Concerned registrations e) ∧
        ¬TablesAgree registrations e ∧
        ((byNumber registrations {}).statement e (.empty 0)).1 =
          .ok ⟨"t.name matches ?", [.string "x"]⟩ ∧
        ((byName registrations {}).statement e (.empty 0)).1 =
          .ok ⟨"t.name = ?", [.string "x"]⟩ := by
  intro made e
  refine ⟨_, OperatorSupply.getElem?_created_past_room .bool "MATCHES", ?_⟩
  intro registrations
  have byNumber_text : ((byNumber registrations {}).statement e (.empty 0)).1 =
      .ok ⟨"t.name matches ?", [.string "x"]⟩ := by decide +kernel
  have byName_text : ((byName registrations {}).statement e (.empty 0)).1 =
      .ok ⟨"t.name = ?", [.string "x"]⟩ := by decide +kernel
  have concerned : ∀ g, Concerned registrations e g →
      g = Builtin.eq.toOperator ∨
        g = (OperatorSupply.create ⟨1⟩ .bool "MATCHES").1.toOperator := by
    rintro g (applied | registered)
    · left
      simpa [e, Term.eq, Term.binary, Term.apply, Term.ofPath, Term.ofString] using applied
    · simpa [registrations] using registered
  have named : ∀ g h, Concerned registrations e g → Concerned registrations e h →
      g.name = h.name → g = h := by
    intro g h hg hh same
    rcases concerned g hg with rfl | rfl <;> rcases concerned h hh with rfl | rfl
    · rfl
    · exact absurd same (by decide)
    · exact absurd same (by decide)
    · rfl
  refine ⟨named, fun g h hg hh same => ?_, fun agree => ?_, byNumber_text, byName_text⟩
  · rw [named g h hg hh same, Operator.beq_def]
    exact beq_self_eq_true _
  · have same := congrArg Prod.fst (agree {} (.empty 0))
    rw [byNumber_text, byName_text] at same
    exact absurd same (by decide)

end Renderer

end QueryDialect
