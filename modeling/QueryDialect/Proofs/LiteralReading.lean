import Mathlib.Tactic.Common
import QueryDialect.Statement

/-!
# Reading literals back

The rules for reading a quoted literal are stated here as a relation, and the reader follows them.
A literal that a query holds is read back as the string it was written for, up to its own closing
quote, as long as no quote stands right behind it. No content of the string changes that.
-/
namespace QueryDialect

namespace Text

/-- The rules behind the opening quote: what is left to read, the content, and what is not read. -/
inductive ContentReads : List Char → List Char → List Char → Prop
  | closing {rest : List Char} (single : rest.head? ≠ some '\'') :
      ContentReads ('\'' :: rest) [] rest
  | doubled {text content rest : List Char} (h : ContentReads text content rest) :
      ContentReads ('\'' :: '\'' :: text) ('\'' :: content) rest
  | plain {c : Char} {text content rest : List Char} (other : c ≠ '\'')
      (h : ContentReads text content rest) : ContentReads (c :: text) (c :: content) rest

/-- A text that begins with a literal, the content of the literal, and the text behind it. -/
inductive LiteralReads : List Char → List Char → List Char → Prop
  | opening {text content rest : List Char} (h : ContentReads text content rest) :
      LiteralReads ('\'' :: text) content rest

variable {text content rest : List Char}

lemma readContent_doubled (text : List Char) :
    readContent ('\'' :: '\'' :: text) =
      (readContent text).map fun (s, after) => ('\'' :: s, after) := by
  rw [readContent]

lemma readContent_closing {rest : List Char} (single : rest.head? ≠ some '\'') :
    readContent ('\'' :: rest) = some ([], rest) := by
  rw [readContent]
  rintro after rfl
  exact single rfl

lemma readContent_plain {c : Char} (other : c ≠ '\'') (text : List Char) :
    readContent (c :: text) = (readContent text).map fun (s, after) => (c :: s, after) := by
  rw [readContent]
  · rintro after rfl
    exact absurd rfl other
  · exact other

lemma ContentReads.readContent_eq (h : ContentReads text content rest) :
    readContent text = some (content, rest) := by
  induction h with
  | closing single => exact readContent_closing single
  | doubled h ih => rw [readContent_doubled, ih, Option.map_some]
  | plain other h ih => rw [readContent_plain other, ih, Option.map_some]

lemma contentReads_of_eq (h : readContent text = some (content, rest)) :
    ContentReads text content rest := by
  fun_induction readContent text generalizing content with
  | case1 => cases h
  | case2 text ih =>
    obtain ⟨⟨s, after⟩, read, same⟩ := Option.map_eq_some_iff.1 h
    cases same
    exact .doubled (ih read)
  | case3 text single =>
    cases h
    refine .closing fun head => ?_
    obtain ⟨after, rfl⟩ := List.head?_eq_some_iff.1 head
    exact single after rfl
  | case4 c text _ other ih =>
    obtain ⟨⟨s, after⟩, read, same⟩ := Option.map_eq_some_iff.1 h
    cases same
    exact .plain other (ih read)

/-- The reader follows the rules, and there is no other way to read a text by them. -/
lemma literalReads_iff :
    LiteralReads text content rest ↔ readLiteral text = some (content, rest) := by
  constructor
  · rintro ⟨h⟩
    exact h.readContent_eq
  · intro h
    unfold readLiteral at h
    split at h
    · exact .opening (contentReads_of_eq h)
    · cases h

lemma doubleQuotes_quote (s : List Char) :
    doubleQuotes ('\'' :: s) = '\'' :: '\'' :: doubleQuotes s :=
  if_pos rfl

lemma doubleQuotes_other {c : Char} (other : c ≠ '\'') (s : List Char) :
    doubleQuotes (c :: s) = c :: doubleQuotes s :=
  if_neg other

/-- What stands behind the content of a literal is read as if the content were not there. -/
lemma readContent_doubleQuotes_append (s behind : List Char) :
    readContent (doubleQuotes s ++ behind) =
      (readContent behind).map fun (t, after) => (s ++ t, after) := by
  induction s with
  | nil =>
    change readContent behind = (readContent behind).map id
    rw [Option.map_id, id]
  | cons c s ih =>
    by_cases quote : c = '\''
    · subst quote
      rw [doubleQuotes_quote, List.cons_append, List.cons_append, readContent_doubled, ih,
        Option.map_map]
      rfl
    · rw [doubleQuotes_other quote, List.cons_append, readContent_plain quote, ih, Option.map_map]
      rfl

lemma readLiteral_literal_append (s : String) (behind : List Char) :
    readLiteral ((literal s).toList ++ behind) =
      (readContent ('\'' :: behind)).map fun (t, after) => (s.toList ++ t, after) := by
  rw [toList_literal, List.append_assoc, List.cons_append, readLiteral,
    readContent_doubleQuotes_append, List.singleton_append]

lemma readLiteral_literal (s : String) (single : rest.head? ≠ some '\'') :
    readLiteral ((literal s).toList ++ rest) = some (s.toList, rest) := by
  rw [readLiteral_literal_append, readContent_closing single, Option.map_some]
  simp only [List.append_nil]

/-- A quote right behind a literal is read as part of it. -/
lemma readLiteral_literal_ne (s : String) (rest : List Char) :
    readLiteral ((literal s).toList ++ '\'' :: rest) ≠ some (s.toList, '\'' :: rest) := by
  rw [readLiteral_literal_append, readContent_doubled]
  intro read
  obtain ⟨⟨t, after⟩, taken, same⟩ := Option.map_eq_some_iff.1 read
  obtain ⟨⟨u, after'⟩, -, longer⟩ := Option.map_eq_some_iff.1 taken
  cases longer
  simp at same

lemma literal_injective {s t : String} (h : literal t = literal s) : t = s := by
  have read (u : String) : readLiteral ((literal u).toList ++ []) = some (u.toList, []) :=
    readLiteral_literal u (by simp)
  have twice := read t
  rw [h, read s, Option.some.injEq, Prod.mk.injEq] at twice
  exact (String.toList_injective twice.1).symm

end Text

lemma Renderer.renderExpr_inlined {r : Renderer} (inlined : r.options.inlineConstants = true)
    (type : ResultKind) (value : Value) (p : Progress) :
    r.renderExpr (.constant type value) p = (.ok value.literal, p) := by
  rw [renderExpr, renderConstant, if_pos inlined]
  rfl

/-- A constant that is not bound stands in the statement as its literal. -/
lemma Renderer.statement_inlined (r : Renderer) (inlined : r.options.inlineConstants = true)
    (type : ResultKind) (value : Value) (store : TemplateStore) :
    (r.statement (.constant type value) store).1 = .ok ⟨value.literal, []⟩ := by
  rw [statement, finish, renderExpr_inlined inlined]
  rfl

namespace Value

open Text

/-- An inlined string constant is read back as the same string, from all of its literal and nothing
else, just when no quote stands behind the literal. There is no second way to read the text, no
literal that ends elsewhere begins the same text, and no other string has the same literal. -/
theorem literal_read_back (s : String) :
    (∀ rest : String, rest.toList.head? ≠ some '\'' →
      readLiteral ((string s).literal ++ rest).toList = some (s.toList, rest.toList) ∧
      (∀ content after, LiteralReads ((string s).literal ++ rest).toList content after ↔
        content = s.toList ∧ after = rest.toList) ∧
      ∀ t behind : String, behind.toList.head? ≠ some '\'' →
        (string t).literal ++ behind = (string s).literal ++ rest → t = s ∧ behind = rest) ∧
    (∀ rest : List Char, LiteralReads ((string s).literal.toList ++ rest) s.toList rest ↔
      rest.head? ≠ some '\'') ∧
    (∀ t : String, t ≠ s → (string t).literal ≠ (string s).literal) ∧
    ∀ (r : Renderer) type store, r.options.inlineConstants = true →
      (r.statement (.constant type (string s)) store).1 = .ok ⟨(string s).literal, []⟩ := by
  have read (u : String) {rest : String} (single : rest.toList.head? ≠ some '\'') :
      readLiteral ((string u).literal ++ rest).toList = some (u.toList, rest.toList) := by
    rw [String.toList_append]
    exact readLiteral_literal u single
  refine ⟨fun rest single => ⟨read s single, fun content after => ?_,
      fun t behind single' same => ?_⟩,
    fun rest => ?_, fun t differ same => differ (literal_injective same),
    fun r type store inlined => r.statement_inlined inlined type _ store⟩
  · rw [literalReads_iff, read s single, Option.some.injEq, Prod.mk.injEq]
    exact and_congr eq_comm eq_comm
  · have twice := read t single'
    rw [same, read s single, Option.some.injEq, Prod.mk.injEq] at twice
    exact ⟨(String.toList_injective twice.1).symm, (String.toList_injective twice.2).symm⟩
  · rw [literalReads_iff]
    constructor
    · intro reads quoted
      obtain ⟨after, rfl⟩ := List.head?_eq_some_iff.1 quoted
      exact readLiteral_literal_ne s after reads
    · exact readLiteral_literal s

/-- The string begins with two quotes and has one in the middle, and there is another literal in the
text behind its own. -/
theorem literal_read_back_quotes :
    let s := "'' or 'a"
    let rest := " or 'b' = '"
    (string s).literal = "''''' or ''a'" ∧ rest.toList.head? ≠ some '\'' ∧
      readLiteral ((string s).literal ++ rest).toList = some (s.toList, rest.toList) ∧
      ¬LiteralReads ((string s).literal ++ rest).toList ['\'', '\''] " or ''a' or 'b' = '".toList ∧
      (string "'").literal ≠ (string s).literal := by
  intro s rest
  have single : rest.toList.head? ≠ some '\'' := by decide
  obtain ⟨behind, -, distinct, -⟩ := literal_read_back s
  obtain ⟨read, unique, -⟩ := behind rest single
  refine ⟨by decide, single, read, fun shorter => ?_, distinct "'" (by decide)⟩
  exact absurd ((unique _ _).1 shorter).1 (by decide)

end Value

end QueryDialect
