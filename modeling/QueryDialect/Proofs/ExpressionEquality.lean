import Mathlib.Data.List.Forall2
import QueryDialect.Expr.Term
import QueryDialect.Proofs.OperatorNumbers
import QueryDialect.Proofs.Subexpression
import QueryDialect.Statement

/-!
# Equal expressions

Expressions are equal node by node: operators by their numbers alone, floating-point constants as
numbers. Where a number belongs to one operator and no constant is a zero, which has two signs,
equality leaves nothing open that a rendering could show. An expression that equals itself stays
equal when parts of it are exchanged for equal ones.
-/
namespace QueryDialect

lemma forall₂_of_mem {α β : Type} {R S : α → β → Prop} {as : List α} {bs : List β}
    (h : List.Forall₂ R as bs) (hs : ∀ a ∈ as, ∀ b ∈ bs, R a b → S a b) : List.Forall₂ S as bs := by
  obtain ⟨length, related⟩ := List.forall₂_iff_zip.1 h
  refine List.forall₂_iff_zip.2 ⟨length, fun mem => ?_⟩
  obtain ⟨left, right⟩ := List.of_mem_zip mem
  exact hs _ left _ right (related mem)

/-- Only the two zeros are equal and differ. -/
lemma Number.Binary64.eq_of_equals {x y : Binary64} (h : x.equals y = true)
    (nonzero : x.isZero = false) : x = y := by
  have bits : x.bits = y.bits := by simpa [equals, nonzero] using (Bool.and_eq_true_iff.1 h).2
  cases x
  cases y
  cases bits
  rfl

lemma Value.eq_of_beq {v w : Value} (h : (v == w) = true)
    (nonzero : ∀ x, v = .float x → x.isZero = false) : v = w := by
  have equal : v.equals w = true := h
  cases v with
  | float x =>
    cases w with
    | float y => rw [Number.Binary64.eq_of_equals equal (nonzero x rfl)]
    | null | bool b | integer n | string s => cases equal
  | null | bool b | integer n | string s => cases w <;> simp_all [equals]

namespace Expr

/-- No floating-point constant in the expression is a zero. -/
def ZeroFree (e : Expr) : Prop :=
  ∀ type x, Within (.constant type (.float x)) e → x.isZero = false

lemma ZeroFree.arg {a e : Expr} (h : e.ZeroFree) (mem : a ∈ e.args) : a.ZeroFree :=
  fun type x within => h type x (.arg mem within)

lemma sameArgs_iff {as bs : List Expr} :
    sameArgs as bs = true ↔ List.Forall₂ (fun a b => (a == b) = true) as bs := by
  induction as generalizing bs with
  | nil => cases bs <;> simp [sameArgs]
  | cons a as ih =>
    cases bs with
    | nil => simp [sameArgs]
    | cons b bs =>
      rw [sameArgs_cons, Bool.and_eq_true, ih, List.forall₂_cons]
      rfl

lemma beq_iff {a b : Expr} : (a == b) = true ↔ a.type = b.type ∧ sameNode a b = true := by
  change equals a b = true ↔ _
  rw [equals, Bool.and_eq_true, beq_iff_eq]

/-! What an expression is equal to has the same constructor at its root. -/

section Inversion

variable {type : ResultKind} {b : Expr} {args : List Expr}

lemma constant_beq_iff {value : Value} :
    (constant type value == b) = true ↔
      ∃ other, b = constant type other ∧ (value == other) = true := by
  rw [beq_iff]
  constructor
  · rintro ⟨rfl, same⟩
    cases b with
    | constant _ other => exact ⟨other, rfl, same⟩
    | path | operation | template => simp [sameNode] at same
  · rintro ⟨other, rfl, same⟩
    exact ⟨rfl, same⟩

lemma path_beq_iff {p : Path} : (path type p == b) = true ↔ b = path type p := by
  rw [beq_iff]
  constructor
  · rintro ⟨rfl, same⟩
    cases b with
    | path _ other => rw [eq_of_beq (show (p == other) = true from same)]; rfl
    | constant | operation | template => simp [sameNode] at same
  · rintro rfl
    exact ⟨rfl, beq_self_eq_true p⟩

lemma operation_beq_iff {f : Operator} :
    (operation type f args == b) = true ↔ ∃ g bs, b = operation type g bs ∧ (f == g) = true ∧
      List.Forall₂ (fun a b => (a == b) = true) args bs := by
  rw [beq_iff]
  constructor
  · rintro ⟨rfl, same⟩
    cases b with
    | operation _ g bs =>
      rw [sameNode, Bool.and_eq_true, sameArgs_iff] at same
      exact ⟨g, bs, rfl, same⟩
    | constant | path | template => simp [sameNode] at same
  · rintro ⟨g, bs, rfl, same⟩
    rw [sameNode, Bool.and_eq_true, sameArgs_iff]
    exact ⟨rfl, same⟩

lemma template_beq_iff {t : Template} :
    (template type t args == b) = true ↔ ∃ bs, b = template type t bs ∧
      List.Forall₂ (fun a b => (a == b) = true) args bs := by
  rw [beq_iff]
  constructor
  · rintro ⟨rfl, same⟩
    cases b with
    | template _ u bs =>
      rw [sameNode, Bool.and_eq_true, sameArgs_iff, beq_iff_eq] at same
      obtain ⟨rfl, same⟩ := same
      exact ⟨bs, rfl, same⟩
    | constant | path | operation => simp [sameNode] at same
  · rintro ⟨bs, rfl, same⟩
    rw [sameNode, Bool.and_eq_true, sameArgs_iff, beq_iff_eq]
    exact ⟨rfl, rfl, same⟩

end Inversion

/-- Zeros apart, equal nodes have the same arguments if equal arguments are the same. -/
lemma args_eq_of_beq {a b : Expr} (zeroFree : a.ZeroFree)
    (identified : Operator.Identified fun f => a.Applies f ∨ b.Applies f)
    (equal : List.Forall₂ (fun x y => (x == y) = true) a.args b.args)
    (ih : ∀ x ∈ a.args, ∀ y, (x == y) = true → x.ZeroFree →
      Operator.Identified (fun f => x.Applies f ∨ y.Applies f) → x = y) : a.args = b.args := by
  have same : List.Forall₂ (· = ·) a.args b.args := by
    refine forall₂_of_mem equal fun x left y right hxy => ?_
    refine ih x left y hxy (zeroFree.arg left) fun f g hf hg => identified f g ?_ ?_
    · exact hf.imp (.arg left) (.arg right)
    · exact hg.imp (.arg left) (.arg right)
  rwa [List.forall₂_eq_eq_eq] at same

/-- Equality leaves open only the sign of a zero and what else an operator has beside its number. -/
theorem eq_of_beq_of_zeroFree {a b : Expr} (h : (a == b) = true) (zeroFree : a.ZeroFree)
    (identified : Operator.Identified fun f => a.Applies f ∨ b.Applies f) : a = b := by
  induction a generalizing b with
  | constant type value =>
    obtain ⟨other, rfl, same⟩ := constant_beq_iff.1 h
    rw [Value.eq_of_beq same fun x hx => zeroFree type x (hx ▸ .self)]
  | path type p => exact (path_beq_iff.1 h).symm
  | operation type f args ih =>
    obtain ⟨g, bs, rfl, same, equal⟩ := operation_beq_iff.1 h
    have hf : f = g := identified f g (.inl (applies_operation type f args))
      (.inr (applies_operation type g bs)) same
    have hargs : args = bs :=
      args_eq_of_beq zeroFree identified equal fun x mem y hxy => ih x mem hxy
    rw [hf, hargs]
  | template type t args ih =>
    obtain ⟨bs, rfl, equal⟩ := template_beq_iff.1 h
    have hargs : args = bs :=
      args_eq_of_beq zeroFree identified equal fun x mem y hxy => ih x mem hxy
    rw [hargs]

/-- Some of the places in the first expression where `a` stands have `b` in the second one. -/
inductive Exchanges (a b : Expr) : Expr → Expr → Prop
  | here : Exchanges a b a b
  | keep (e : Expr) : Exchanges a b e e
  | operation {as bs : List Expr} (type : ResultKind) (f : Operator)
      (args : List.Forall₂ (Exchanges a b) as bs) :
      Exchanges a b (.operation type f as) (.operation type f bs)
  | template {as bs : List Expr} (type : ResultKind) (t : Template)
      (args : List.Forall₂ (Exchanges a b) as bs) :
      Exchanges a b (.template type t as) (.template type t bs)

lemma beq_of_exchanges {a b c d : Expr} (h : (a == b) = true) (exchanged : Exchanges a b c d)
    (self : (c == c) = true) : (c == d) = true := by
  induction c generalizing d with
  | constant type value =>
    cases exchanged with
    | here => exact h
    | keep => exact self
  | path type p =>
    cases exchanged with
    | here => exact h
    | keep => exact self
  | operation type f as ih =>
    cases exchanged with
    | here => exact h
    | keep => exact self
    | operation _ _ args =>
      obtain ⟨g, cs, root, same, selves⟩ := operation_beq_iff.1 self
      cases root
      rw [List.forall₂_same] at selves
      exact operation_beq_iff.2 ⟨f, _, rfl, same,
        forall₂_of_mem args fun x mem y _ hxy => ih x mem hxy (selves x mem)⟩
  | template type t as ih =>
    cases exchanged with
    | here => exact h
    | keep => exact self
    | template _ _ args =>
      obtain ⟨cs, root, selves⟩ := template_beq_iff.1 self
      cases root
      rw [List.forall₂_same] at selves
      exact template_beq_iff.2 ⟨_, rfl,
        forall₂_of_mem args fun x mem y _ hxy => ih x mem hxy (selves x mem)⟩

/-- Equal expressions can stand for each other. Where numbers tell their operators apart and no
constant is a zero, every renderer makes one statement of both and leaves one store behind. And a
larger expression that equals itself equals every expression it becomes by exchanging them. -/
theorem interchangeable_of_beq {a b : Expr} (h : (a == b) = true) :
    (a.ZeroFree → Operator.Identified (fun f => a.Applies f ∨ b.Applies f) →
      ∀ (r : Renderer) (store : TemplateStore), r.statement a store = r.statement b store) ∧
    ∀ c d, Exchanges a b c d → (c == c) = true → (c == d) = true := by
  refine ⟨fun zeroFree identified r store => ?_, fun c d exchanged self => ?_⟩
  · rw [eq_of_beq_of_zeroFree h zeroFree identified]
  · exact beq_of_exchanges h exchanged self

/-- A new operator, applied by hand and by a builder. The zeros are exchanged as well, but only in a
comparison with itself do they go unnoticed. -/
theorem interchangeable_of_beq_new_operator :
    let f := (OperatorSupply.initial.create .bool "MATCHES").1
    let name := Term.ofPath .string ⟨["t", "name"]⟩
    let a := (Term.apply f [name.expr, (Term.ofString "x").expr]).expr
    let b := Expr.operation .boolean f.toOperator [name.expr, .ofValue "x"]
    let zero := Expr.ofValue (Number.Binary64.mk 0)
    let negative := Expr.ofValue (Number.Binary64.mk 0x8000000000000000)
    let lt (x y : Expr) := Expr.operation .boolean Builtin.lt.toOperator [x, y]
    let r : Renderer := ⟨fun _ => some "{0} {1}", { inlineConstants := true }⟩
    (a == b) = true ∧ a.ZeroFree ∧ Operator.Identified (fun g => a.Applies g ∨ b.Applies g) ∧
      r.statement a (.empty 0) = r.statement b (.empty 0) ∧
      (zero == negative) = true ∧ Exchanges zero negative (lt zero zero) (lt negative zero) ∧
      (lt zero zero == lt negative zero) = true ∧
      (r.statement (lt zero zero) (.empty 0)).1 = .ok ⟨"0.0 0.0", []⟩ ∧
      (r.statement (lt negative zero) (.empty 0)).1 = .ok ⟨"-0.0 0.0", []⟩ := by
  intro f name a b zero negative lt r
  have hab : (a == b) = true := by decide +kernel
  have hz : (zero == negative) = true := by decide +kernel
  have hs : (lt zero zero == lt zero zero) = true := by decide +kernel
  have zeroFree : a.ZeroFree := by
    intro type x within
    simp [a, name, Term.apply, Term.ofPath, Term.ofString] at within
  have only : ∀ g, a.Applies g ∨ b.Applies g → g = f.toOperator := by
    rintro g (applied | applied)
    · simpa [a, name, Term.apply, Term.ofPath, Term.ofString] using applied
    · simpa [b, name, Term.ofPath, Expr.ofValue] using applied
  have fits : [(ResultType.bool, "MATCHES")].length ≤ OperatorSupply.room := by decide
  have identified : Operator.Identified fun g => a.Applies g ∨ b.Applies g :=
    (OperatorSupply.identified_created fits).mono
      fun g hg => ⟨⟨.bool, f⟩, by simp [OperatorSupply.createAll, f], (only g hg).symm⟩
  have exchanged : Exchanges zero negative (lt zero zero) (lt negative zero) :=
    .operation _ _ (.cons .here (.cons (.keep zero) .nil))
  obtain ⟨rendered, -⟩ := interchangeable_of_beq hab
  obtain ⟨-, equal⟩ := interchangeable_of_beq hz
  refine ⟨hab, zeroFree, identified, rendered zeroFree identified r _, hz, exchanged,
    equal _ _ exchanged hs, ?_, ?_⟩
  · decide +kernel
  · decide +kernel

end Expr

end QueryDialect
