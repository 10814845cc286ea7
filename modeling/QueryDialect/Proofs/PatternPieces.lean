import Mathlib.Data.List.Chain
import QueryDialect.Template

/-!
# The pieces of a pattern

Reading from left to right finds every placeholder that is written anywhere in a pattern, because an
open brace stands only at the front of one: two of them cannot overlap. Whatever is left between the
placeholders is text in longest runs.
-/
namespace QueryDialect

open Text

namespace Pattern

lemma Placeholder.WellFormed.brace_not_mem_body {p : Placeholder} (h : p.WellFormed) :
    '{' ∉ p.digits ++ (p.letter.toList ++ ['}']) := by
  intro hmem
  rcases List.mem_append.1 hmem with hd | hrest
  · have := h.digits_decimal _ hd
    simp at this
  · rcases List.mem_append.1 hrest with hl | hb
    · have := h.letter_modifier _ (by simpa using hl)
      simp [Modifier.ofLetter?] at this
    · simp at hb

/-- Two placeholders in one text do not overlap: the second one starts with a brace, and the first
one has no open brace but its own. -/
lemma Placeholder.eq_nil_or_chars_append {p q : Placeholder} (hq : q.WellFormed)
    {before after rest : List Char} (h : q.chars ++ rest = before ++ (p.chars ++ after)) :
    before = [] ∨ ∃ between, before = q.chars ++ between ∧ rest = between ++ (p.chars ++ after) := by
  rcases List.append_eq_append_iff.1 h with ⟨between, hbefore, hrest⟩ | ⟨overlap, hchars, hafter⟩
  · exact .inr ⟨between, hbefore, hrest⟩
  · cases before with
    | nil => exact .inl rfl
    | cons b bs =>
      cases overlap with
      | nil => exact .inr ⟨[], by simpa using hchars.symm, by simpa using hafter.symm⟩
      | cons o os =>
        -- the overlap is the front of `p`, and it is inside of `q`
        have ho : o = '{' := by
          rw [chars, List.cons_append, List.cons_append] at hafter
          exact (List.cons.inj hafter).1.symm
        have hbody : q.digits ++ (q.letter.toList ++ ['}']) = bs ++ o :: os :=
          (List.cons.inj hchars).2
        refine absurd ?_ hq.brace_not_mem_body
        rw [hbody, ho]
        exact List.mem_append_right _ List.mem_cons_self

namespace Piece

/-- Texts that are not empty and placeholders of the language. -/
def Proper : Piece → Prop
  | text content => content ≠ []
  | placeholder p => p.WellFormed

def isText : Piece → Bool
  | text _ => true
  | placeholder _ => false

lemma Proper.chars_ne_nil {x : Piece} (h : x.Proper) : x.chars ≠ [] := by
  cases x with
  | text content => exact h
  | placeholder p => exact List.cons_ne_nil _ _

lemma proper_pushText (c : Char) {xs : List Piece} (h : ∀ x ∈ xs, x.Proper) :
    ∀ x ∈ pushText c xs, x.Proper := by
  intro x hx
  unfold pushText at hx
  split at hx
  · next content rest =>
    rcases List.mem_cons.1 hx with rfl | hrest
    · exact List.cons_ne_nil _ _
    · exact h x (List.mem_cons_of_mem _ hrest)
  · rcases List.mem_cons.1 hx with rfl | hrest
    · exact List.cons_ne_nil _ _
    · exact h x hrest

/-- No two texts stand side by side. -/
def Separated (xs : List Piece) : Prop := xs.IsChain fun x y => ¬(x.isText ∧ y.isText)

/-- What comes after a text is not a text. -/
lemma Separated.isText_head? {content : List Char} {rest : List Piece}
    (h : Separated (text content :: rest)) : ∀ y ∈ rest.head?, y.isText = false := by
  intro y hy
  simpa [isText] using List.IsChain.rel_head? h hy

lemma separated_pushText (c : Char) {xs : List Piece} (h : Separated xs) :
    Separated (pushText c xs) := by
  unfold Separated at h ⊢
  match xs with
  | [] => exact .singleton _
  | [text _] => exact .singleton _
  | .text content :: y :: ys =>
    rw [List.isChain_cons_cons] at h
    exact .cons_cons h.1 h.2
  | placeholder p :: ys => exact .cons_cons (by simp [isText]) h

lemma pushText_append_placeholder (c : Char) (left right : List Piece) (p : Placeholder) :
    pushText c (left ++ placeholder p :: right) = pushText c left ++ placeholder p :: right := by
  match left with
  | [] => rfl
  | text _ :: _ => rfl
  | placeholder _ :: _ => rfl

end Piece

lemma proper_pieces (s : List Char) : ∀ x ∈ pieces s, x.Proper := by
  fun_induction pieces s with
  | case1 s p rest h ih =>
    intro x hx
    rcases List.mem_cons.1 hx with rfl | hrest
    · exact (Placeholder.eq_of_read? h).1
    · exact ih x hrest
  | case2 => simp
  | case3 c cs _ ih => exact Piece.proper_pushText c ih

lemma separated_pieces (s : List Char) : Piece.Separated (pieces s) := by
  fun_induction pieces s with
  | case1 s p rest h ih =>
    unfold Piece.Separated at ih ⊢
    cases hxs : pieces rest with
    | nil => exact .singleton _
    | cons y ys =>
      rw [hxs] at ih
      exact .cons_cons (by simp [Piece.isText]) ih
  | case2 => exact .nil
  | case3 c cs _ ih => exact Piece.separated_pushText c ih

/-- A placeholder that is written in a text is one of its pieces, at the place where it is written. -/
lemma exists_pieces_eq_append {p : Placeholder} (hp : p.WellFormed) (before after : List Char) :
    ∃ left right, pieces (before ++ (p.chars ++ after)) = left ++ .placeholder p :: right ∧
      left.flatMap Piece.chars = before := by
  generalize hs : before ++ (p.chars ++ after) = s
  fun_induction pieces s generalizing before with
  | case1 s q rest hread ih =>
    obtain ⟨hq, rfl⟩ := Placeholder.eq_of_read? hread
    rcases Placeholder.eq_nil_or_chars_append hq hs.symm with rfl | ⟨between, rfl, hrest⟩
    · rw [← hs, List.nil_append, Placeholder.read?_chars_append hp] at hread
      obtain ⟨rfl, rfl⟩ := Prod.mk.inj (Option.some.inj hread)
      exact ⟨[], _, rfl, rfl⟩
    · obtain ⟨left, right, heq, hleft⟩ := ih between hrest.symm
      refine ⟨.placeholder q :: left, right, ?_, ?_⟩
      · rw [heq, List.cons_append]
      · rw [List.flatMap_cons, hleft, Piece.chars]
  | case2 hread =>
    simp [Placeholder.chars] at hs
  | case3 c cs hread ih =>
    cases before with
    | nil =>
      rw [List.nil_append] at hs
      rw [← hs, Placeholder.read?_chars_append hp] at hread
      exact absurd hread (by simp)
    | cons b bs =>
      obtain ⟨rfl, hcs⟩ := List.cons.inj hs
      obtain ⟨left, right, heq, hleft⟩ := ih bs hcs
      refine ⟨Piece.pushText b left, right, ?_, ?_⟩
      · rw [heq, Piece.pushText_append_placeholder]
      · rw [Piece.flatMap_pushText, hleft]

end Pattern

end QueryDialect
