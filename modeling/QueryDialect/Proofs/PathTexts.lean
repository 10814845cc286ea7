import Mathlib.Data.List.Basic
import QueryDialect.Proofs.FoldedLiterals

/-!
# Texts of paths

Cutting the text of a path at its dots gives back the segments just when there are segments and no
dot stands in any of them. Such paths are told apart by their texts, which is what a statement shows
of them, whether or not a placeholder asks for plain text.
-/
namespace QueryDialect

lemma not_mem_of_mem_splitOn {α : Type} [BEq α] [LawfulBEq α] {a : α} {s part : List α}
    (h : part ∈ s.splitOn a) : a ∉ part := by
  induction s generalizing part with
  | nil =>
    rw [List.splitOn_nil, List.mem_singleton] at h
    rw [h]
    exact List.not_mem_nil
  | cons b s ih =>
    rw [List.splitOn_cons_eq_if_modifyHead] at h
    split_ifs at h with separator
    · rcases List.mem_cons.1 h with rfl | mem
      · exact List.not_mem_nil
      · exact ih mem
    · obtain ⟨first, others, parts⟩ := List.exists_cons_of_ne_nil (List.splitOn_ne_nil a s)
      rw [parts] at h ih
      rw [List.modifyHead_cons, List.mem_cons] at h
      rcases h with rfl | mem
      · rw [List.mem_cons, not_or]
        exact ⟨fun same => separator (beq_iff_eq.2 same.symm), ih List.mem_cons_self⟩
      · exact ih (List.mem_cons_of_mem _ mem)

namespace Path

/-- There are segments, and no dot stands in any of them. -/
def DotFree (p : Path) : Prop := p.segments ≠ [] ∧ ∀ s ∈ p.segments, '.' ∉ s.toList

variable {p q : Path}

lemma toList_display (p : Path) :
    p.display.toList = ['.'].intercalate (p.segments.map String.toList) :=
  String.toList_intercalate

/-- Cutting the text at its dots undoes the writing of the path. -/
lemma splitOn_display_iff :
    p.display.toList.splitOn '.' = p.segments.map String.toList ↔ p.DotFree := by
  constructor
  · intro same
    constructor
    · intro nothing
      rw [nothing] at same
      exact List.splitOn_ne_nil _ _ same
    · intro s mem
      apply not_mem_of_mem_splitOn (s := p.display.toList)
      rw [same]
      exact List.mem_map_of_mem mem
  · rintro ⟨some_segment, clear⟩
    rw [toList_display]
    exact List.splitOn_intercalate '.' (List.forall_mem_map.2 clear) (by simpa using some_segment)

lemma eq_of_display_eq (hp : p.DotFree) (hq : q.DotFree) (same : p.display = q.display) :
    p = q := by
  have segments : p.segments.map String.toList = q.segments.map String.toList := by
    rw [← splitOn_display_iff.2 hp, ← splitOn_display_iff.2 hq, same]
  have equal : p.segments = q.segments :=
    List.map_injective_iff.2 (fun _ _ => String.toList_injective) segments
  cases p
  cases q
  exact congrArg Path.mk equal

/-- Starting at the first segment and going down level by level gives the path of all segments. -/
lemma foldl_child_root (first : String) (rest : List String) :
    rest.foldl child (root first) = ⟨first :: rest⟩ :=
  foldl_child (root first) rest

end Path

namespace Renderer

variable {r : Renderer} {p : Path} {type : ResultKind}

lemma renderExpr_path (q : Progress) : r.renderExpr (.path type p) q = (.ok p.display, q) := by
  rw [renderExpr]
  rfl

lemma statement_path (store : TemplateStore) :
    (r.statement (.path type p) store).1 = .ok ⟨p.display, []⟩ := by
  rw [statement, finish, renderExpr_path]
  rfl

/-- A placeholder shows a path by its text, unless it changes the letter case. -/
lemma renderElement_path {args : List Expr} {index : Nat}
    (found : args[index]? = some (.path type p)) {modifier : Modifier}
    (keeps : modifier ∈ [.keep, .plain]) (t : Template) (span : Text.Span) (q : Progress) :
    t.renderElement (r.renderArgs args) Renderer.fail (fun step form => step form)
      ⟨.argument index modifier, span⟩ q = (.ok p.display, q) := by
  simp only [List.mem_cons, List.not_mem_nil, or_false] at keeps
  rcases keeps with rfl | rfl
  · exact renderElement_of_renderExpr found rfl (renderExpr_path q) t span
  · have step : (r.renderArgs args)[index]? =
        some (renderArg (.path type p) (r.renderExpr (.path type p))) := by
      rw [renderArgs_eq_map, List.getElem?_map, found, Option.map_some]
    simp only [Template.renderElement, step]
    rfl

end Renderer

namespace Path

/-- Cutting its text at the dots gives back the segments of a path just when it has segments and no
dot in any of them. Two such paths with one text are the same, so different ones stand in statements
with different texts, and it does not matter whether a path was made at once or level by level. -/
theorem text_determines_segments (p q : Path) :
    (p.display.toList.splitOn '.' = p.segments.map String.toList ↔ p.DotFree) ∧
    (p.DotFree → q.DotFree → (p.display = q.display → p = q) ∧
      (p ≠ q → ∀ (r : Renderer) type type',
        (∀ store store', (r.statement (.path type p) store).1 ≠
          (r.statement (.path type' q) store').1) ∧
        ∀ (t : Template) args args' index span modifier before before',
          modifier ∈ [Modifier.keep, .plain] →
          args[index]? = some (Expr.path type p) → args'[index]? = some (Expr.path type' q) →
          (t.renderElement (r.renderArgs args) Renderer.fail (fun step form => step form)
              ⟨.argument index modifier, span⟩ before).1 ≠
            (t.renderElement (r.renderArgs args') Renderer.fail (fun step form => step form)
              ⟨.argument index modifier, span⟩ before').1)) ∧
    ∀ first rest, let built := rest.foldl child (root first)
      built = ⟨first :: rest⟩ ∧ built.display = ".".intercalate (first :: rest) ∧
        some built.name = (first :: rest).getLast? := by
  refine ⟨splitOn_display_iff, fun hp hq => ⟨eq_of_display_eq hp hq, fun differ r type type' => ?_⟩,
    fun first rest => ?_⟩
  · have apart : p.display ≠ q.display := mt (eq_of_display_eq hp hq) differ
    refine ⟨fun store store' same => ?_,
      fun t args args' index span modifier before before' keeps found found' same => ?_⟩
    · rw [Renderer.statement_path, Renderer.statement_path] at same
      exact apart (congrArg Statement.text (Except.ok.inj same))
    · rw [Renderer.renderElement_path found keeps, Renderer.renderElement_path found' keeps] at same
      exact apart (Except.ok.inj same)
  · intro built
    have whole : built = ⟨first :: rest⟩ := foldl_child_root first rest
    refine ⟨whole, by rw [whole]; rfl, ?_⟩
    rw [whole, name, List.getLast?_cons, Option.getD_some]

/-- Empty segments count, and are kept apart by their dots. Without a segment, or with a dot in one,
the text does not tell. -/
theorem text_determines_segments_empty :
    let p : Path := ⟨["", "id"]⟩
    let q := ["", "id"].foldl child (root "")
    let r : Renderer := ⟨fun _ => none, {}⟩
    let t : Template := ⟨"{0s}", [⟨.argument 0 .plain, ⟨0, 4⟩⟩]⟩
    let shown (args : List Expr) := (t.renderElement (r.renderArgs args) Renderer.fail
      (fun step form => step form) ⟨.argument 0 .plain, ⟨0, 4⟩⟩ (.start (.empty 0))).1
    p.DotFree ∧ q.DotFree ∧ q = ⟨["", "", "id"]⟩ ∧ q.name = "id" ∧
      q.display.toList.splitOn '.' = [[], [], ['i', 'd']] ∧
      (r.statement (.path .any p) (.empty 0)).1 ≠ (r.statement (.path .any q) (.empty 0)).1 ∧
      shown [.path .any p] ≠ shown [.path .any q, .path .any p] ∧
      display ⟨[]⟩ = display ⟨[""]⟩ ∧ display ⟨["t.id"]⟩ = display ⟨["t", "id"]⟩ := by
  intro p q r t shown
  obtain ⟨-, -, built⟩ := text_determines_segments p q
  obtain ⟨whole, -, last⟩ := built "" ["", "id"]
  have hp : p.DotFree := ⟨by decide, by decide⟩
  have hq : q.DotFree := ⟨by decide, by decide⟩
  obtain ⟨statements, places⟩ :=
    ((text_determines_segments p q).2.1 hp hq).2 (by decide) r .any .any
  exact ⟨hp, hq, whole, Option.some.inj last, (text_determines_segments q p).1.2 hq,
    statements _ _, places t _ _ 0 ⟨0, 4⟩ .plain _ _ (by decide) rfl rfl, by decide, by decide⟩

end Path

end QueryDialect
