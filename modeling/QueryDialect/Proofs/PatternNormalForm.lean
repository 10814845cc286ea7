import QueryDialect.Proofs.Outcome
import QueryDialect.Proofs.PatternWriting

/-!
# Normal forms of patterns

A compiled pattern can be written again with as few digits as there can be and with small letters.
This is its normal form: it has the same contents, so it renders to the same text with the same
effects, and only a message about a missing argument tells the two apart.
-/
namespace QueryDialect

open ElementContent (Canonical written)
open Pattern (Spelling)

namespace Template

/-- The pattern of the same contents, written in the least way. -/
def normalized (t : Template) : String := written (t.contents.map fun c => (c, .least))

lemma compile_normalized {pattern : String} {t : Template} (h : compile pattern = .ok t) :
    ∃ u, compile t.normalized = .ok u ∧ u.contents = t.contents := by
  have hfst : (t.contents.map fun c => (c, Spelling.least)).map Prod.fst = t.contents := by
    simp [Function.comp_def]
  have canonical : Canonical ((t.contents.map fun c => (c, Spelling.least)).map Prod.fst) := by
    rw [hfst]
    exact canonical_contents h
  obtain ⟨u, compiled, same⟩ := compile_written canonical
  exact ⟨u, compiled, same.trans hfst⟩

/-- Two results are the same, or both report a missing argument of the same index among the same
number of arguments, each in the words of its own template. -/
inductive AgreesWith {ε : Type} (t u : Template) (report : RenderingError → ε) :
    Except ε String → Except ε String → Prop
  | same (result : Except ε String) : AgreesWith t u report result result
  | missing (index count : Nat) (span other : Text.Span) :
      AgreesWith t u report (.error (report (t.missingArgument index count span)))
        (.error (report (u.missingArgument index count other)))

section Steps

variable {ε σ α : Type} {t u : Template} {report : RenderingError → ε}

/-- From any state, two steps come to one state and to results that agree. -/
def StepsAgree (t u : Template) (report : RenderingError → ε)
    (x y : ExceptT ε (StateM σ) String) : Prop :=
  ∀ s, (x s).2 = (y s).2 ∧ t.AgreesWith u report (x s).1 (y s).1

lemma StepsAgree.refl (x : ExceptT ε (StateM σ) String) : StepsAgree t u report x x :=
  fun _ => ⟨rfl, .same _⟩

/-- What follows is only run with the same text, from the same state. -/
lemma StepsAgree.bind {x y : ExceptT ε (StateM σ) String}
    {next other : String → ExceptT ε (StateM σ) String} (h : StepsAgree t u report x y)
    (hnext : ∀ text, StepsAgree t u report (next text) (other text)) :
    StepsAgree t u report (x >>= next) (y >>= other) := by
  intro s
  obtain ⟨hstate, hresult⟩ := h s
  rcases hx : x s with ⟨rx, sx⟩
  rcases hy : y s with ⟨ry, sy⟩
  simp only [hx, hy] at hstate hresult
  subst hstate
  cases hresult with
  | same =>
    cases rx with
    | ok text =>
      rw [bind_run_of_ok hx, bind_run_of_ok hy]
      exact hnext text sx
    | error failure =>
      rw [bind_run_of_error hx, bind_run_of_error hy]
      exact ⟨rfl, .same _⟩
  | missing index count span span' =>
    rw [bind_run_of_error hx, bind_run_of_error hy]
    exact ⟨rfl, .missing index count span span'⟩

variable {args : List α} {textOf : α → TextForm → ExceptT ε (StateM σ) String}

/-- The steps that report an error. -/
def raising (report : RenderingError → ε) (e : RenderingError) : ExceptT ε (StateM σ) String :=
  throw (report e)

lemma stepsAgree_renderElement {x y : Element} (h : x.content = y.content) :
    StepsAgree t u report (t.renderElement args (raising report) textOf x)
      (u.renderElement args (raising report) textOf y) := by
  unfold renderElement
  rw [h]
  cases y.content with
  | text verbatim => exact .refl _
  | argument index modifier =>
    cases found : args[index]? with
    | some a =>
      simp only [found]
      exact .refl _
    | none =>
      simp only [found]
      exact fun s => ⟨rfl, .missing index args.length x.span y.span⟩

lemma stepsAgree_renderAll {xs ys : List Element}
    (h : xs.map Element.content = ys.map Element.content) :
    StepsAgree t u report (renderAll (t.renderElement args (raising report) textOf) xs)
      (renderAll (u.renderElement args (raising report) textOf) ys) := by
  induction xs generalizing ys with
  | nil =>
    cases ys with
    | nil => exact .refl _
    | cons y ys => cases h
  | cons x xs ih =>
    cases ys with
    | nil => cases h
    | cons y ys =>
      obtain ⟨hhead, htail⟩ := List.cons.inj h
      have hrest := ih htail
      exact (stepsAgree_renderElement hhead).bind fun head => hrest.bind fun tail => .refl _

/-- Templates with the same contents are rendered alike, whatever the effects. -/
lemma stepsAgree_renderWith (h : t.contents = u.contents) :
    StepsAgree t u report (t.renderWith args (raising report) textOf)
      (u.renderWith args (raising report) textOf) := by
  rw [renderWith_eq_renderAll, renderWith_eq_renderAll]
  exact stepsAgree_renderAll h

end Steps

/-- Whatever way canonical contents are written in, the pattern compiles to a template with just
these contents. The contents of every pattern that compiles are canonical, and its normal form has
them too and is its own normal form. The two are rendered to the same text with the same effects, or
fail in the same way up to the template and the span that a message quotes. -/
theorem normal_form_of_compile :
    (∀ spelled : List (ElementContent × Spelling), Canonical (spelled.map Prod.fst) →
      ∃ t, compile (written spelled) = .ok t ∧ t.contents = spelled.map Prod.fst) ∧
    ∀ pattern t, compile pattern = .ok t → Canonical t.contents ∧
      ∃ u, compile t.normalized = .ok u ∧ u.contents = t.contents ∧ u.normalized = t.normalized ∧
        ∀ (ε σ α : Type) (report : RenderingError → ε) (args : List α)
          (textOf : α → TextForm → ExceptT ε (StateM σ) String),
            StepsAgree t u report (t.renderWith args (raising report) textOf)
              (u.renderWith args (raising report) textOf) := by
  refine ⟨fun spelled => compile_written, fun pattern t h => ⟨canonical_contents h, ?_⟩⟩
  obtain ⟨u, compiled, same⟩ := compile_normalized h
  refine ⟨u, compiled, same, ?_, fun ε σ α report args textOf => stepsAgree_renderWith same.symm⟩
  rw [normalized, normalized, same]

/-- The front part of a placeholder stands before a placeholder with zeros and a capital letter. -/
theorem normal_form_of_compile_unfinished :
    let pattern := "\x7b0{0012U}s\x7d{7}"
    let t : Template := ⟨pattern, [⟨.text "\x7b0", ⟨0, 2⟩⟩, ⟨.argument 12 .upper, ⟨2, 9⟩⟩,
      ⟨.text "s\x7d", ⟨9, 11⟩⟩, ⟨.argument 7 .keep, ⟨11, 14⟩⟩]⟩
    let other : List (ElementContent × Spelling) := [(.text "\x7b0", .least),
      (.argument 12 .upper, ⟨1, true⟩), (.text "s\x7d", .least), (.argument 7 .keep, ⟨3, false⟩)]
    compile pattern = .ok t ∧ Canonical t.contents ∧ t.normalized = "\x7b0{12u}s\x7d{7}" ∧
      (∃ u, compile t.normalized = .ok u ∧ u.contents = t.contents) ∧
      written other = "\x7b0{012U}s\x7d{0007}" ∧
      ∃ u, compile (written other) = .ok u ∧ u.contents = t.contents := by
  intro pattern t other
  obtain ⟨reads, writes⟩ := normal_form_of_compile
  have compiled : compile pattern = .ok t := by decide +kernel
  obtain ⟨canonical, u, hu, same, -⟩ := writes pattern t compiled
  exact ⟨compiled, canonical, by decide +kernel, ⟨u, hu, same⟩, by decide +kernel,
    reads other canonical⟩

end Template

end QueryDialect
