import Mathlib.Data.List.Lex
import QueryDialect.Dialect
import QueryDialect.Expr
import QueryDialect.Template

/-!
# Places that are visited

Rendering follows placeholders from the root. A place is the way to a node, told by the positions of
the placeholders in their templates: its length is the number of nodes around it, and the
lexicographic order of places is the depth-first order.
-/
namespace QueryDialect

open Text

namespace Expr

/-- The pattern that the node is looked up with; only operators have one. -/
def pattern? (dialect : Dialect) (e : Expr) : Option String := e.operator?.bind dialect

/-- The template that renders the node: its own, or what the pattern of its operator compiles to. -/
def template? (dialect : Dialect) : Expr → Option Template
  | operation _ f _ => (dialect f).bind fun pattern => (Template.compile pattern).toOption
  | template _ t _ => some t
  | constant .. | path .. => none

section Operation

variable {dialect : Dialect} {f : Operator} {pattern : String}

lemma template?_of_missing (h : dialect f = none) (type : ResultKind) (args : List Expr) :
    (operation type f args).template? dialect = none := by
  simp [template?, h]

lemma template?_of_malformed {error : PatternError} (h : dialect f = some pattern)
    (hc : Template.compile pattern = .error error) (type : ResultKind) (args : List Expr) :
    (operation type f args).template? dialect = none := by
  simp [template?, h, hc, Except.toOption]

lemma template?_of_compile {t : Template} (h : dialect f = some pattern)
    (hc : Template.compile pattern = .ok t) (type : ResultKind) (args : List Expr) :
    (operation type f args).template? dialect = some t := by
  simp [template?, h, hc, Except.toOption]

end Operation

lemma plainText?_of_template? {dialect : Dialect} {e : Expr} {t : Template}
    (h : e.template? dialect = some t) : e.plainText? = none := by
  cases e with
  | constant type value => cases h
  | path type path => cases h
  | operation type f args => rfl
  | template type t args => rfl

end Expr

/-- The way to a node: the position of the placeholder that is followed in each template. -/
abbrev Place := List Nat

namespace Place

lemma nil_le (place : Place) : [] ≤ place := by
  cases place with
  | nil => exact le_rfl
  | cons position place => exact (List.nil_lt_cons position place).le

lemma not_cons_le_nil {position : Nat} {place : Place} : ¬position :: place ≤ [] :=
  (List.nil_lt_cons position place).not_ge

lemma cons_le_cons_iff {i j : Nat} {place other : Place} :
    i :: place ≤ j :: other ↔ i < j ∨ i = j ∧ place ≤ other := by
  simp only [le_iff_lt_or_eq, List.cons_lt_cons_iff, List.cons.injEq]
  tauto

end Place

/-- The root is visited, and so is each argument that the template of a visited node refers to. -/
inductive Visits (dialect : Dialect) : Expr → Place → Expr → Prop
  | root (e : Expr) : Visits dialect e [] e
  | arg {e a s : Expr} {t : Template} {position index : Nat} {modifier : Modifier} {span : Span}
      {place : Place} (template : e.template? dialect = some t)
      (placeholder : t.elements[position]? = some ⟨.argument index modifier, span⟩)
      (found : e.args[index]? = some a) (within : Visits dialect a place s) :
      Visits dialect e (position :: place) s

namespace Visits

variable {dialect : Dialect} {e s : Expr} {place : Place}

@[simp] lemma nil_iff : Visits dialect e [] s ↔ s = e := by
  constructor
  · intro h
    cases h
    rfl
  · rintro rfl
    exact .root _

lemma cons_iff {position : Nat} :
    Visits dialect e (position :: place) s ↔ ∃ t index modifier span a,
      e.template? dialect = some t ∧
        t.elements[position]? = some ⟨.argument index modifier, span⟩ ∧
          e.args[index]? = some a ∧ Visits dialect a place s := by
  constructor
  · intro h
    cases h with
    | arg template placeholder found within => exact ⟨_, _, _, _, _, template, placeholder, found, within⟩
  · rintro ⟨t, index, modifier, span, a, template, placeholder, found, within⟩
    exact .arg template placeholder found within

lemma unique {u : Expr} (h : Visits dialect e place s) (hu : Visits dialect e place u) : s = u := by
  induction h with
  | root e => exact (nil_iff.1 hu).symm
  | arg template placeholder found _ ih =>
    obtain ⟨t, index, modifier, span, a, template', placeholder', found', within⟩ := cons_iff.1 hu
    obtain rfl := Option.some.inj (template.symm.trans template')
    obtain ⟨⟨rfl, -⟩, -⟩ := by simpa using placeholder.symm.trans placeholder'
    obtain rfl := Option.some.inj (found.symm.trans found')
    exact ih within

/-- What is visited in a visited node is visited, at the place behind that of the node. -/
lemma trans {u : Expr} {rest : Place} (h : Visits dialect e place s) (hs : Visits dialect s rest u) :
    Visits dialect e (place ++ rest) u := by
  induction h with
  | root => exact hs
  | arg template placeholder found _ ih => exact .arg template placeholder found (ih hs)

/-- Nothing is visited below a node that no template renders. -/
lemma eq_nil_of_template?_eq_none (h : Visits dialect e place s) (none : e.template? dialect = none) :
    place = [] := by
  cases h with
  | root => rfl
  | arg template => simp [none] at template

end Visits

end QueryDialect
