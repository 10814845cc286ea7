import QueryDialect.Pattern.Modifier

/-!
# Placeholders

A placeholder is an open brace, at least one decimal digit, at most one modifier letter and a
closing brace. The digits are the index of an argument, and the letter names the modifier.
-/
namespace QueryDialect.Pattern

structure Placeholder where
  digits : List Char
  letter : Option Char
  deriving DecidableEq, Repr

namespace Placeholder

/-- The placeholder as it is written. -/
def chars (p : Placeholder) : List Char := '{' :: (p.digits ++ (p.letter.toList ++ ['}']))

/-- The number the digits denote; leading zeros do not count. -/
def index (p : Placeholder) : Nat := Nat.ofDigitChars 10 p.digits 0

def modifier (p : Placeholder) : Modifier := (p.letter.bind Modifier.ofLetter?).getD .keep

/-- The placeholders of the language: digits there are, and a letter that is a modifier. -/
structure WellFormed (p : Placeholder) : Prop where
  digits_ne_nil : p.digits ≠ []
  digits_decimal : ∀ c ∈ p.digits, c.isDigit
  letter_modifier : ∀ c ∈ p.letter, (Modifier.ofLetter? c).isSome

/-- An optional modifier letter and the closing brace. -/
def closing? : List Char → Option (Option Char × List Char)
  | [] => none
  | '}' :: rest => some (none, rest)
  | c :: '}' :: rest => if (Modifier.ofLetter? c).isSome then some (some c, rest) else none
  | _ :: _ => none

/-- Reads a placeholder at the front of a text and gives the rest of the text. -/
def read? : List Char → Option (Placeholder × List Char)
  | '{' :: body =>
    match body.takeWhile Char.isDigit, closing? (body.dropWhile Char.isDigit) with
    | d :: ds, some (letter, rest) => some (⟨d :: ds, letter⟩, rest)
    | _, _ => none
  | _ => none

theorem eq_of_closing? {s rest : List Char} {letter : Option Char}
    (h : closing? s = some (letter, rest)) :
    s = letter.toList ++ '}' :: rest ∧ ∀ c ∈ letter, (Modifier.ofLetter? c).isSome := by
  unfold closing? at h
  split at h
  · simp at h
  · simp only [Option.some.injEq, Prod.mk.injEq] at h
    obtain ⟨rfl, rfl⟩ := h
    simp
  · split at h
    · simp only [Option.some.injEq, Prod.mk.injEq] at h
      obtain ⟨rfl, rfl⟩ := h
      simpa
    · simp at h
  · simp at h

/-- What is read is a placeholder of the language, written at the front of the text. -/
theorem eq_of_read? {s rest : List Char} {p : Placeholder} (h : read? s = some (p, rest)) :
    p.WellFormed ∧ s = p.chars ++ rest := by
  unfold read? at h
  split at h
  · rename_i body
    split at h
    · rename_i d ds letter after digits closing
      simp only [Option.some.injEq, Prod.mk.injEq] at h
      obtain ⟨rfl, rfl⟩ := h
      obtain ⟨split, modifier⟩ := eq_of_closing? closing
      refine ⟨⟨by simp, ?_, modifier⟩, ?_⟩
      · intro c hc
        rw [← digits] at hc
        exact List.all_eq_true.1 (List.all_takeWhile (l := body)) c hc
      · have whole := List.takeWhile_append_dropWhile (p := Char.isDigit) (l := body)
        rw [digits, split] at whole
        simp [chars, ← whole]
    · simp at h
  · simp at h

theorem not_isDigit_of_ofLetter? {c : Char} (h : (Modifier.ofLetter? c).isSome) :
    c.isDigit = false := by
  unfold Modifier.ofLetter? at h
  split at h
  · next letter => rcases letter with rfl | rfl <;> decide
  · split at h
    · next letter => rcases letter with rfl | rfl <;> decide
    · split at h
      · next letter => rcases letter with rfl | rfl <;> decide
      · simp at h

theorem closing?_append {letter : Option Char} (rest : List Char)
    (h : ∀ c ∈ letter, (Modifier.ofLetter? c).isSome) :
    closing? (letter.toList ++ '}' :: rest) = some (letter, rest) := by
  cases letter with
  | none => simp [closing?]
  | some c =>
    have modifier := h c rfl
    have brace : c ≠ '}' := by rintro rfl; simp [Modifier.ofLetter?] at modifier
    simp [closing?, modifier]

/-- A placeholder is read whatever follows it. -/
theorem read?_chars_append {p : Placeholder} (h : p.WellFormed) (rest : List Char) :
    read? (p.chars ++ rest) = some (p, rest) := by
  obtain ⟨digits, letter⟩ := p
  obtain ⟨nonempty, decimal, modifier⟩ := h
  have stop : (letter.toList ++ '}' :: rest).takeWhile Char.isDigit = [] ∧
      (letter.toList ++ '}' :: rest).dropWhile Char.isDigit = letter.toList ++ '}' :: rest := by
    cases letter with
    | none => simp
    | some c => simp [not_isDigit_of_ofLetter? (modifier c rfl)]
  have body : chars ⟨digits, letter⟩ ++ rest = '{' :: (digits ++ (letter.toList ++ '}' :: rest)) := by
    simp [chars]
  rw [body, read?, List.takeWhile_append_of_pos decimal, List.dropWhile_append_of_pos decimal,
    stop.1, stop.2, closing?_append rest modifier, List.append_nil]
  cases digits with
  | nil => exact absurd rfl nonempty
  | cons d ds => rfl

/-- Reading accepts exactly the placeholders of the language. -/
theorem read?_eq_some_iff {s rest : List Char} {p : Placeholder} :
    read? s = some (p, rest) ↔ p.WellFormed ∧ s = p.chars ++ rest :=
  ⟨eq_of_read?, fun ⟨wellFormed, eq⟩ => eq ▸ read?_chars_append wellFormed rest⟩

theorem length_read? {s rest : List Char} {p : Placeholder} (h : read? s = some (p, rest)) :
    rest.length < s.length := by
  rw [(eq_of_read? h).2]
  simp [chars]
  omega

end Placeholder

end QueryDialect.Pattern
