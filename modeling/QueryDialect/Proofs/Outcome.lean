import Mathlib.Tactic.Common
import QueryDialect.Failure
import QueryDialect.Template.Render
import QueryDialect.Value

/-!
# Outcomes of rendering

An outcome is what a rendering leaves behind, told without the state it runs in: the result, the
constants it binds and the patterns it looks up. Outcomes are composed like the steps they describe,
up to the first failure.
-/
namespace QueryDialect

section Steps

variable {ε σ α β : Type} {step : ExceptT ε (StateM σ) α} {s s' : σ}

lemma bind_run_of_ok {a : α} (h : step s = (.ok a, s')) (next : α → ExceptT ε (StateM σ) β) :
    (step >>= next) s = next a s' := by
  change (do let (x, s') ← step s; ExceptT.bindCont next x s' : Id _) = _
  rw [h]
  rfl

lemma bind_run_of_error {failure : ε} (h : step s = (.error failure, s'))
    (next : α → ExceptT ε (StateM σ) β) : (step >>= next) s = (.error failure, s') := by
  change (do let (x, s') ← step s; ExceptT.bindCont next x s' : Id _) = _
  rw [h]
  rfl

end Steps

namespace Template

variable {α β : Type} {m : Type → Type} [Monad m]

/-- The texts of the elements one after another, each rendered only if those before it were. -/
def renderAll (render : Element → m String) : List Element → m String
  | [] => pure ""
  | element :: rest => do
    let head ← render element
    let tail ← renderAll render rest
    return head ++ tail

lemma renderWith_congr (t : Template) {args : List α} (raise : RenderingError → m String)
    {textOf other : α → TextForm → m String}
    (h : ∀ a ∈ args, ∀ form, textOf a form = other a form) :
    t.renderWith args raise textOf = t.renderWith args raise other := by
  have he : t.renderElement args raise textOf = t.renderElement args raise other := by
    funext element
    unfold renderElement
    cases element.content with
    | text verbatim => rfl
    | argument index modifier =>
      dsimp only
      cases found : args[index]? with
      | none => rfl
      | some a => simp only [h a (List.mem_of_getElem? found)]
  rw [renderWith, renderWith, he]

variable [LawfulMonad m]

lemma renderWith_eq_renderAll (t : Template) (args : List α) (raise : RenderingError → m String)
    (textOf : α → TextForm → m String) :
    t.renderWith args raise textOf = renderAll (t.renderElement args raise textOf) t.elements := by
  unfold renderWith
  induction t.elements with
  | nil => simp [renderAll]
  | cons element rest ih => simp [renderAll, ← ih]

lemma renderElement_map (t : Template) (g : α → β) (args : List α)
    (raise : RenderingError → m String) (textOf : β → TextForm → m String) :
    t.renderElement (args.map g) raise textOf = t.renderElement args raise (fun a => textOf (g a)) := by
  funext element
  unfold renderElement
  cases element.content with
  | text verbatim => rfl
  | argument index modifier => cases h : args[index]? <;> simp [h]

lemma renderWith_map (t : Template) (g : α → β) (args : List α) (raise : RenderingError → m String)
    (textOf : β → TextForm → m String) :
    t.renderWith (args.map g) raise textOf = t.renderWith args raise (fun a => textOf (g a)) := by
  simp only [renderWith, renderElement_map]

end Template

@[ext]
structure Outcome (α : Type) where
  result : Except Failure α
  /-- The constants bound on the way, also on the way to a failure. -/
  constants : List Value
  /-- The patterns looked up in the store on the way. -/
  patterns : List String

namespace Outcome

variable {α β γ : Type}

def bind (x : Outcome α) (f : α → Outcome β) : Outcome β :=
  match x.result with
  | .error failure => ⟨.error failure, x.constants, x.patterns⟩
  | .ok a => ⟨(f a).result, x.constants ++ (f a).constants, x.patterns ++ (f a).patterns⟩

instance : Monad Outcome where
  pure a := ⟨.ok a, [], []⟩
  bind := bind

def fail (error : RenderingError) : Outcome α := ⟨.error (.render error), [], []⟩

lemma pure_def (a : α) : (pure a : Outcome α) = ⟨.ok a, [], []⟩ := rfl

lemma bind_of_ok {x : Outcome α} {a : α} (h : x.result = .ok a) (f : α → Outcome β) :
    x >>= f = ⟨(f a).result, x.constants ++ (f a).constants, x.patterns ++ (f a).patterns⟩ := by
  change bind x f = _
  simp [bind, h]

lemma bind_of_error {x : Outcome α} {failure : Failure} (h : x.result = .error failure)
    (f : α → Outcome β) : x >>= f = ⟨.error failure, x.constants, x.patterns⟩ := by
  change bind x f = _
  simp [bind, h]

lemma bind_pure_eq (x : Outcome α) : id <$> x = x := by
  obtain ⟨result, constants, patterns⟩ := x
  change bind _ _ = _
  cases result <;> simp [bind]

lemma pure_bind_eq (a : α) (f : α → Outcome β) : pure a >>= f = f a := by
  rw [bind_of_ok (a := a) rfl]
  simp [pure_def]

lemma bind_assoc_eq (x : Outcome α) (f : α → Outcome β) (g : β → Outcome γ) :
    x >>= f >>= g = x >>= fun a => f a >>= g := by
  cases hx : x.result with
  | error failure => rw [bind_of_error hx, bind_of_error hx, bind_of_error rfl]
  | ok a =>
    rw [bind_of_ok hx, bind_of_ok hx]
    cases hf : (f a).result with
    | error failure => rw [bind_of_error rfl, bind_of_error hf]
    | ok b =>
      rw [bind_of_ok rfl, bind_of_ok hf]
      simp

instance : LawfulMonad Outcome :=
  LawfulMonad.mk' Outcome bind_pure_eq pure_bind_eq bind_assoc_eq

lemma map_eq (g : α → β) (x : Outcome α) :
    g <$> x = ⟨x.result.map g, x.constants, x.patterns⟩ := by
  rw [← bind_pure_comp]
  cases h : x.result with
  | error failure => rw [bind_of_error h]; rfl
  | ok a => rw [bind_of_ok h]; simp [pure_def, Except.map]

def append (x y : Outcome String) : Outcome String := do
  let head ← x
  let tail ← y
  return head ++ tail

lemma append_of_ok {x y : Outcome String} {head tail : String} (hx : x.result = .ok head)
    (hy : y.result = .ok tail) :
    x.append y = ⟨.ok (head ++ tail), x.constants ++ y.constants, x.patterns ++ y.patterns⟩ := by
  rw [append, bind_of_ok hx, bind_of_ok hy]
  simp [pure_def]

lemma append_of_error {x : Outcome String} {failure : Failure} (h : x.result = .error failure)
    (y : Outcome String) : x.append y = ⟨.error failure, x.constants, x.patterns⟩ := by
  rw [append, bind_of_error h]

lemma append_of_error_right {x y : Outcome String} {head : String} {failure : Failure}
    (hx : x.result = .ok head) (hy : y.result = .error failure) :
    x.append y = ⟨.error failure, x.constants ++ y.constants, x.patterns ++ y.patterns⟩ := by
  rw [append, bind_of_ok hx, bind_of_error hy]

lemma renderAll_cons (render : Element → Outcome String) (x : Element) (rest : List Element) :
    Template.renderAll render (x :: rest) = (render x).append (Template.renderAll render rest) := rfl

/-- The outcome of a step that first looks a pattern up. -/
def asking (pattern : String) (x : Outcome α) : Outcome α :=
  ⟨x.result, x.constants, pattern :: x.patterns⟩

lemma renderAll_of_ok {render : Element → Outcome String} {text : Element → String}
    {elements : List Element} (h : ∀ x ∈ elements, (render x).result = .ok (text x)) :
    Template.renderAll render elements =
      ⟨.ok (String.join (elements.map text)), elements.flatMap fun x => (render x).constants,
        elements.flatMap fun x => (render x).patterns⟩ := by
  induction elements with
  | nil => simp [Template.renderAll, pure_def]
  | cons x rest ih =>
    have hx := h x (by simp)
    have hr := ih fun y hy => h y (by simp [hy])
    rw [renderAll_cons, hr, append_of_ok hx rfl]
    simp

/-- The step came to a result. -/
def Succeeds (x : Outcome α) : Prop := ∃ a, x.result = .ok a

lemma not_succeeds_of_error {x : Outcome α} {failure : Failure} (h : x.result = .error failure) :
    ¬x.Succeeds := by
  rintro ⟨a, ha⟩
  rw [h] at ha
  cases ha

lemma succeeds_or_error (x : Outcome α) : x.Succeeds ∨ ∃ failure, x.result = .error failure := by
  cases h : x.result with
  | error failure => exact .inr ⟨failure, rfl⟩
  | ok a => exact .inl ⟨a, h⟩

section Positions

variable {render : Element → Outcome String} {elements : List Element}

lemma renderAll_succeeds_iff :
    (Template.renderAll render elements).Succeeds ↔ ∀ x ∈ elements, (render x).Succeeds := by
  induction elements with
  | nil => simp [Template.renderAll, Succeeds, pure_def]
  | cons x rest ih =>
    rw [renderAll_cons, List.forall_mem_cons, ← ih]
    rcases (render x).succeeds_or_error with ⟨head, hx⟩ | ⟨failure, hx⟩
    · rcases (Template.renderAll render rest).succeeds_or_error with ⟨tail, hr⟩ | ⟨failure, hr⟩
      · simp [append_of_ok hx hr, Succeeds, hx, hr]
      · simp [append_of_error_right hx hr, Succeeds, hr]
    · simp [append_of_error hx, Succeeds, hx]

/-- The elements fail as the first one of them that fails. -/
lemma exists_of_renderAll_error {failure : Failure}
    (h : (Template.renderAll render elements).result = .error failure) :
    ∃ position x, elements[position]? = some x ∧ (render x).result = .error failure ∧
      ∀ y ∈ elements.take position, (render y).Succeeds := by
  induction elements with
  | nil => cases h
  | cons x rest ih =>
    rw [renderAll_cons] at h
    rcases (render x).succeeds_or_error with hx | ⟨first, hx⟩
    · obtain ⟨head, hh⟩ := hx
      rcases (Template.renderAll render rest).succeeds_or_error with ⟨tail, hr⟩ | ⟨later, hr⟩
      · rw [append_of_ok hh hr] at h
        cases h
      · rw [append_of_error_right hh hr] at h
        obtain ⟨position, y, found, hy, before⟩ := ih (hr.trans h)
        refine ⟨position + 1, y, found, hy, ?_⟩
        rw [List.take_succ_cons, List.forall_mem_cons]
        exact ⟨⟨head, hh⟩, before⟩
    · rw [append_of_error hx] at h
      exact ⟨0, x, rfl, hx.trans h, by simp⟩

/-- A pattern is looked up by an element before which none fails. -/
lemma mem_patterns_renderAll {pattern : String} :
    pattern ∈ (Template.renderAll render elements).patterns ↔
      ∃ position x, elements[position]? = some x ∧ pattern ∈ (render x).patterns ∧
        ∀ y ∈ elements.take position, (render y).Succeeds := by
  induction elements with
  | nil => simp [Template.renderAll, pure_def]
  | cons x rest ih =>
    have hcons : (∃ position y, (x :: rest)[position]? = some y ∧ pattern ∈ (render y).patterns ∧
        ∀ z ∈ (x :: rest).take position, (render z).Succeeds) ↔
        pattern ∈ (render x).patterns ∨
          (render x).Succeeds ∧ pattern ∈ (Template.renderAll render rest).patterns := by
      rw [ih]
      constructor
      · rintro ⟨position, y, found, hy, before⟩
        cases position with
        | zero =>
          obtain rfl := Option.some.inj found
          exact .inl hy
        | succ position =>
          rw [List.take_succ_cons, List.forall_mem_cons] at before
          exact .inr ⟨before.1, position, y, found, hy, before.2⟩
      · rintro (hx | ⟨succeeds, position, y, found, hy, before⟩)
        · exact ⟨0, x, rfl, hx, by simp⟩
        · refine ⟨position + 1, y, found, hy, ?_⟩
          rw [List.take_succ_cons, List.forall_mem_cons]
          exact ⟨succeeds, before⟩
    rw [hcons, renderAll_cons]
    rcases (render x).succeeds_or_error with hx | ⟨failure, hx⟩
    · obtain ⟨head, hh⟩ := hx
      rcases (Template.renderAll render rest).succeeds_or_error with ⟨tail, hr⟩ | ⟨failure, hr⟩
      · simp [append_of_ok hh hr, Succeeds, hh]
      · simp [append_of_error_right hh hr, Succeeds, hh]
    · simp [append_of_error hx, not_succeeds_of_error hx]

end Positions

/-- Two outcomes with the same result and constants, whatever patterns they look up. -/
def Alike (x y : Outcome α) : Prop :=
  x.result = y.result ∧ x.constants = y.constants

namespace Alike

lemma refl (x : Outcome α) : x.Alike x := ⟨rfl, rfl⟩

lemma append {x x' y y' : Outcome String} (hx : x.Alike x') (hy : y.Alike y') :
    (x.append y).Alike (x'.append y') := by
  obtain ⟨hxr, hxc⟩ := hx
  obtain ⟨hyr, hyc⟩ := hy
  cases hr : x.result with
  | error failure =>
    rw [append_of_error hr, append_of_error (hxr.symm.trans hr)]
    exact ⟨rfl, hxc⟩
  | ok head =>
    cases hs : y.result with
    | error failure =>
      rw [append_of_error_right hr hs,
        append_of_error_right (hxr.symm.trans hr) (hyr.symm.trans hs)]
      exact ⟨rfl, by rw [hxc, hyc]⟩
    | ok tail =>
      rw [append_of_ok hr hs, append_of_ok (hxr.symm.trans hr) (hyr.symm.trans hs)]
      exact ⟨rfl, by rw [hxc, hyc]⟩

lemma map {x x' : Outcome String} (h : x.Alike x') (g : String → String) :
    (g <$> x).Alike (g <$> x') := by
  rw [map_eq, map_eq]
  exact ⟨congrArg (Except.map g) h.1, h.2⟩

end Alike

section Compositional

variable {ι : Type}

/-- A property of outcomes side by side, one for each index, that goes over from the arguments of a
template to the whole. The modifiers it goes through are up to the property. -/
structure Compositional (admits : Modifier → Prop) (P : (ι → Outcome String) → Prop) : Prop where
  text : ∀ verbatim, P fun _ => pure verbatim
  fault : ∀ error, P fun _ => fail error
  modify : ∀ {x : ι → Outcome String} (modifier : Modifier), admits modifier → P x →
    P fun i => modifier.apply <$> x i
  append : ∀ {x y : ι → Outcome String}, P x → P y →
    P fun i => (x i).append (y i)

variable {admits : Modifier → Prop} {P : (ι → Outcome String) → Prop}

lemma Compositional.renderAll (h : Compositional admits P)
    {render : ι → Element → Outcome String} {elements : List Element}
    (hx : ∀ x ∈ elements, P fun i => render i x) :
    P fun i => Template.renderAll (render i) elements := by
  induction elements with
  | nil => exact h.text ""
  | cons x rest ih => exact h.append (hx x (by simp)) (ih fun y hy => hx y (by simp [hy]))

/-- All outcomes run through one template, and its faults do not depend on the index. -/
lemma Compositional.renderWith (h : Compositional admits P) {t : Template}
    (ht : ∀ x ∈ t.elements, ∀ index modifier, x.content = .argument index modifier →
      admits modifier)
    {args : List α} {textOf : ι → α → TextForm → Outcome String}
    (ha : ∀ a ∈ args, ∀ form, P fun i => textOf i a form) :
    P fun i => t.renderWith args .fail (textOf i) := by
  simp only [Template.renderWith_eq_renderAll]
  refine h.renderAll fun x hx => ?_
  obtain ⟨content, span⟩ := x
  cases content with
  | text verbatim => exact h.text verbatim
  | argument index modifier =>
    simp only [Template.renderElement]
    cases found : args[index]? with
    | none => exact h.fault _
    | some a =>
      simp only [bind_pure_comp]
      exact h.modify modifier (ht _ hx index modifier rfl) (ha a (List.mem_of_getElem? found) _)

end Compositional

end Outcome

end QueryDialect
