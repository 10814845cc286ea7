import QueryDialect.Proofs.ExpressionEquality

/-!
# Equality as a partial equivalence

Equality of expressions is described apart from the function that decides it: by the kinds of the
nodes, the values of constants, the numbers of operators and the patterns of templates. It is
symmetric and transitive, and an expression equals itself just when no constant in it, shown or not,
is a NaN.
-/
namespace QueryDialect

lemma forall₂_trans_of_mem {α : Type} {R : α → α → Prop} {as bs cs : List α}
    (hab : List.Forall₂ R as bs) (hbc : List.Forall₂ R bs cs)
    (h : ∀ a ∈ as, ∀ b c, R a b → R b c → R a c) : List.Forall₂ R as cs := by
  induction hab generalizing cs with
  | nil => exact hbc
  | cons hab _ ih =>
    cases hbc with
    | cons hbc rest =>
      obtain ⟨first, others⟩ := List.forall_mem_cons.1 h
      exact .cons (first _ _ hab hbc) (ih rest others)

lemma Operator.beq_iff {f g : Operator} : (f == g) = true ↔ f.id = g.id := by
  rw [beq_def, beq_iff_eq]

namespace Number.Binary64

variable {x y : Binary64}

lemma equals_iff : x.equals y = true ↔
    x.isNaN = false ∧ y.isNaN = false ∧ (x = y ∨ x.isZero = true ∧ y.isZero = true) := by
  have bits : x.bits = y.bits ↔ x = y := by
    cases x
    cases y
    simp
  simp [equals, bits, and_assoc]

lemma isNaN_of_isZero (h : x.isZero = true) : x.isNaN = false := by
  have exponent : x.exponentBits = 0 := by simpa using (Bool.and_eq_true_iff.1 h).1
  rw [isNaN, exponent]
  rfl

end Number.Binary64

namespace Value

/-- Equal constants are the same and no NaN, or they are zeros with any signs. -/
inductive Alike : Value → Value → Prop
  | same {v : Value} (number : ∀ x, v = .float x → x.isNaN = false) : Alike v v
  | zeros {x y : Number.Binary64} (left : x.isZero = true) (right : y.isZero = true) :
      Alike (.float x) (.float y)

lemma Alike.symm {v w : Value} (h : v.Alike w) : w.Alike v := by
  cases h with
  | same number => exact .same number
  | zeros left right => exact .zeros right left

lemma Alike.trans {u v w : Value} (huv : u.Alike v) (hvw : v.Alike w) : u.Alike w := by
  cases huv with
  | same => exact hvw
  | zeros left =>
    cases hvw with
    | same => exact .zeros left ‹_›
    | zeros _ right => exact .zeros left right

lemma alike_self_iff {v : Value} : v.Alike v ↔ ∀ x, v = .float x → x.isNaN = false := by
  constructor
  · intro h
    cases h with
    | same number => exact number
    | zeros zero =>
      rintro x ⟨⟩
      exact Number.Binary64.isNaN_of_isZero zero
  · exact .same

lemma beq_iff_alike {v w : Value} : (v == w) = true ↔ v.Alike w := by
  change v.equals w = true ↔ v.Alike w
  constructor
  · intro h
    by_cases zero : ∃ x, v = .float x ∧ x.isZero = true
    · obtain ⟨x, rfl, zero⟩ := zero
      cases w with
      | float y =>
        obtain ⟨number, -, rfl | ⟨left, right⟩⟩ := Number.Binary64.equals_iff.1 h
        · exact .zeros zero zero
        · exact .zeros left right
      | null | bool | integer | string => cases h
    · have nonzero : ∀ x, v = .float x → x.isZero = false := by simpa using zero
      obtain rfl := eq_of_beq h nonzero
      refine .same ?_
      rintro x rfl
      exact (Number.Binary64.equals_iff.1 h).1
  · rintro (number | ⟨left, right⟩)
    · cases v with
      | float x =>
        have number := number x rfl
        exact Number.Binary64.equals_iff.2 ⟨number, number, .inl rfl⟩
      | null => rfl
      | bool b => exact beq_self_eq_true b
      | integer n => exact beq_self_eq_true n
      | string s => exact beq_self_eq_true s
    · exact Number.Binary64.equals_iff.2 ⟨Number.Binary64.isNaN_of_isZero left,
        Number.Binary64.isNaN_of_isZero right, .inr ⟨left, right⟩⟩

end Value

namespace Expr

/-- No constant in the expression is a NaN. -/
def NaNFree (e : Expr) : Prop :=
  ∀ type x, Within (.constant type (.float x)) e → x.isNaN = false

/-- Every template in the expression comes from its pattern. -/
def Compiled (e : Expr) : Prop :=
  ∀ type t args, Within (.template type t args) e → Template.compile t.source = .ok t

lemma Compiled.arg {a e : Expr} (h : e.Compiled) (mem : a ∈ e.args) : a.Compiled :=
  fun type t args within => h type t args (.arg mem within)

/-- Nodes of one kind that are equal, and so are their arguments, one by one: equal constants, the
same path, operators with one number under any names, templates with one pattern. -/
inductive Alike : Expr → Expr → Prop
  | constant (type : ResultKind) {v w : Value} (values : v.Alike w) :
      Alike (.constant type v) (.constant type w)
  | path (type : ResultKind) (p : Path) : Alike (.path type p) (.path type p)
  | operation (type : ResultKind) {f g : Operator} {as bs : List Expr} (number : f.id = g.id)
      (args : List.Forall₂ Alike as bs) : Alike (.operation type f as) (.operation type g bs)
  | template (type : ResultKind) {t u : Template} {as bs : List Expr}
      (pattern : t.source = u.source) (args : List.Forall₂ Alike as bs) :
      Alike (.template type t as) (.template type u bs)

lemma beq_symm {a b : Expr} (h : (a == b) = true) : (b == a) = true := by
  induction a generalizing b with
  | constant type value =>
    obtain ⟨other, rfl, same⟩ := constant_beq_iff.1 h
    exact constant_beq_iff.2 ⟨value, rfl, Value.beq_iff_alike.2 (Value.beq_iff_alike.1 same).symm⟩
  | path type p =>
    obtain rfl := path_beq_iff.1 h
    exact h
  | operation type f as ih =>
    obtain ⟨g, bs, rfl, same, equal⟩ := operation_beq_iff.1 h
    have swapped := (forall₂_of_mem equal fun x mem y _ => ih x mem).flip
    rw [Operator.beq_iff] at same
    exact operation_beq_iff.2 ⟨f, as, rfl, Operator.beq_iff.2 same.symm, swapped⟩
  | template type t as ih =>
    obtain ⟨bs, rfl, equal⟩ := template_beq_iff.1 h
    have swapped := (forall₂_of_mem equal fun x mem y _ => ih x mem).flip
    exact template_beq_iff.2 ⟨as, rfl, swapped⟩

lemma beq_trans {a b c : Expr} (hab : (a == b) = true) (hbc : (b == c) = true) :
    (a == c) = true := by
  induction a generalizing b c with
  | constant type value =>
    obtain ⟨other, rfl, left⟩ := constant_beq_iff.1 hab
    obtain ⟨third, rfl, right⟩ := constant_beq_iff.1 hbc
    rw [Value.beq_iff_alike] at left right
    exact constant_beq_iff.2 ⟨third, rfl, Value.beq_iff_alike.2 (left.trans right)⟩
  | path type p =>
    obtain rfl := path_beq_iff.1 hab
    exact hbc
  | operation type f as ih =>
    obtain ⟨g, bs, rfl, left, equal⟩ := operation_beq_iff.1 hab
    obtain ⟨g', cs, rfl, right, equal'⟩ := operation_beq_iff.1 hbc
    rw [Operator.beq_iff] at left right
    refine operation_beq_iff.2 ⟨g', cs, rfl, Operator.beq_iff.2 (left.trans right), ?_⟩
    exact forall₂_trans_of_mem equal equal' fun x mem y z => ih x mem
  | template type t as ih =>
    obtain ⟨bs, rfl, equal⟩ := template_beq_iff.1 hab
    obtain ⟨cs, rfl, equal'⟩ := template_beq_iff.1 hbc
    refine template_beq_iff.2 ⟨cs, rfl, ?_⟩
    exact forall₂_trans_of_mem equal equal' fun x mem y z => ih x mem

lemma nanFree_iff_args {e : Expr} (inner : e.value? = none) :
    e.NaNFree ↔ ∀ a ∈ e.args, a.NaNFree := by
  constructor
  · exact fun h a mem type x within => h type x (.arg mem within)
  · intro h type x within
    cases within with
    | self => cases inner
    | arg mem within => exact h _ mem type x within

lemma forall₂_beq_self_iff {args : List Expr}
    (ih : ∀ a ∈ args, ((a == a) = true ↔ a.NaNFree)) :
    List.Forall₂ (fun a b => (a == b) = true) args args ↔ ∀ a ∈ args, a.NaNFree := by
  rw [List.forall₂_same]
  exact forall₂_congr ih

lemma beq_self_iff {e : Expr} : (e == e) = true ↔ e.NaNFree := by
  induction e with
  | constant type value =>
    rw [constant_beq_iff]
    constructor
    · rintro ⟨other, ⟨⟩, same⟩ _ x within
      rw [Value.beq_iff_alike, Value.alike_self_iff] at same
      cases within_constant.1 within
      exact same x rfl
    · intro free
      refine ⟨value, rfl, Value.beq_iff_alike.2 (Value.alike_self_iff.2 ?_)⟩
      rintro x rfl
      exact free type x .self
  | path type p => exact iff_of_true (path_beq_iff.2 rfl) ((nanFree_iff_args rfl).2 nofun)
  | operation type f args ih =>
    rw [operation_beq_iff, nanFree_iff_args rfl, Expr.args, ← forall₂_beq_self_iff ih]
    constructor
    · rintro ⟨g, bs, ⟨⟩, -, equal⟩
      exact equal
    · exact fun equal => ⟨f, args, rfl, Operator.beq_iff.2 rfl, equal⟩
  | template type t args ih =>
    rw [template_beq_iff, nanFree_iff_args rfl, Expr.args, ← forall₂_beq_self_iff ih]
    constructor
    · rintro ⟨bs, ⟨⟩, equal⟩
      exact equal
    · exact fun equal => ⟨args, rfl, equal⟩

lemma alike_of_beq {a b : Expr} (h : (a == b) = true) : a.Alike b := by
  induction a generalizing b with
  | constant type value =>
    obtain ⟨other, rfl, same⟩ := constant_beq_iff.1 h
    exact .constant type (Value.beq_iff_alike.1 same)
  | path type p =>
    obtain rfl := path_beq_iff.1 h
    exact .path type p
  | operation type f as ih =>
    obtain ⟨g, bs, rfl, same, equal⟩ := operation_beq_iff.1 h
    exact .operation type (Operator.beq_iff.1 same) (forall₂_of_mem equal fun x mem y _ => ih x mem)
  | template type t as ih =>
    obtain ⟨bs, rfl, equal⟩ := template_beq_iff.1 h
    exact .template type rfl (forall₂_of_mem equal fun x mem y _ => ih x mem)

/-- The pattern says all about a template that was compiled. -/
lemma Alike.beq {a b : Expr} (h : a.Alike b) (left : a.Compiled) (right : b.Compiled) :
    (a == b) = true := by
  induction a generalizing b with
  | constant type value =>
    cases h with
    | constant _ values => exact constant_beq_iff.2 ⟨_, rfl, Value.beq_iff_alike.2 values⟩
  | path type p =>
    cases h
    exact path_beq_iff.2 rfl
  | operation type f as ih =>
    cases h with
    | operation _ number args =>
      refine operation_beq_iff.2 ⟨_, _, rfl, Operator.beq_iff.2 number, ?_⟩
      exact forall₂_of_mem args fun x hx y hy hxy => ih x hx hxy (left.arg hx) (right.arg hy)
  | template type t as ih =>
    cases h with
    | template _ pattern args =>
      have compiled := left type t as .self
      rw [pattern, right type _ _ .self] at compiled
      cases compiled
      refine template_beq_iff.2 ⟨_, rfl, ?_⟩
      exact forall₂_of_mem args fun x hx y hy hxy => ih x hx hxy (left.arg hx) (right.arg hy)

/-- Equality of expressions is symmetric and transitive, and it fails between an expression and
itself just when there is a NaN somewhere in it, shown or not. Where all templates were compiled,
two expressions are equal just when they are alike from the root to the leaves. -/
theorem beq_partial_equivalence :
    (∀ a b : Expr, (a == b) = (b == a)) ∧
    (∀ a b c : Expr, (a == b) = true → (b == c) = true → (a == c) = true) ∧
    (∀ e : Expr, (e == e) = true ↔ e.NaNFree) ∧
    ∀ a b : Expr, a.Compiled → b.Compiled → ((a == b) = true ↔ a.Alike b) := by
  refine ⟨fun a b => ?_, fun a b c => beq_trans, fun e => beq_self_iff, fun a b left right => ?_⟩
  · exact Bool.eq_iff_iff.2 ⟨beq_symm, beq_symm⟩
  · exact ⟨alike_of_beq, fun alike => alike.beq left right⟩

/-- The pattern shows no argument, and yet a NaN among its arguments counts. The operators of the
first two expressions share a number and no name, and those of the first and the third one share a
name and no number. -/
theorem beq_partial_equivalence_unrendered :
    let t : Template := ⟨"now()", [⟨.text "now()", ⟨0, 5⟩⟩]⟩
    let now (x : UInt64) := Expr.template .any t [.ofValue (Number.Binary64.mk x)]
    let atNaN := now 0x7FF8000000000000
    let a := Expr.operation .boolean ⟨65536, "SINCE", .boolean⟩ [now 0]
    let b := Expr.operation .boolean ⟨65536, "UNTIL", .boolean⟩ [now 0x8000000000000000]
    let c := Expr.operation .boolean ⟨65537, "SINCE", .boolean⟩ [now 0]
    (atNaN == atNaN) = false ∧ ¬atNaN.NaNFree ∧ a.Compiled ∧ b.Compiled ∧ c.Compiled ∧
      (a == b) = true ∧ a.Alike b ∧ (b == a) = true ∧ (a == a) = true ∧ ¬a.Alike c := by
  intro t now atNaN a b c
  obtain ⟨symm, trans, self, alike⟩ := beq_partial_equivalence
  have compiled (f : Operator) (x : UInt64) :
      (Expr.operation .boolean f [now x]).Compiled := by
    intro type u args within
    simp [now, Expr.ofValue] at within
    obtain ⟨-, rfl, -⟩ := within
    decide +kernel
  have different : (atNaN == atNaN) = false := by decide +kernel
  have equal : (a == b) = true := by decide +kernel
  have apart : (a == c) = false := by decide +kernel
  have back : (b == a) = true := (symm b a).trans equal
  refine ⟨different, fun free => ?_, compiled _ _, compiled _ _, compiled _ _, equal, ?_, back,
    trans a b a equal back, fun same => ?_⟩
  · exact Bool.eq_false_iff.1 different ((self atNaN).2 free)
  · exact (alike a b (compiled _ _) (compiled _ _)).1 equal
  · exact Bool.eq_false_iff.1 apart ((alike a c (compiled _ _) (compiled _ _)).2 same)

end Expr

end QueryDialect
