import Mathlib.Data.Nat.Digits.Defs
import QueryDialect.Proofs.TemplateElements

/-!
# Placeholder ranges

The language of placeholders is stated here without reference to how patterns are read. The
arguments of a compiled pattern stand at all the ranges with a text of this language and at no
others. What lies between them is text, and nothing of the pattern is left out.
-/
namespace QueryDialect

open Text

namespace Pattern

/-- The number that decimal digits denote, the last one counting single units. -/
def decimal (digits : List Char) : Nat :=
  Nat.ofDigits 10 (digits.reverse.map fun d => d.toNat - '0'.toNat)

def modifierLetters : List (Char × Modifier) :=
  [('s', .plain), ('S', .plain), ('l', .lower), ('L', .lower), ('u', .upper), ('U', .upper)]

/-- The texts that are placeholders, with the index and the modifier of each. -/
inductive Denotes : List Char → Nat → Modifier → Prop
  | bare {digits : List Char} (nonempty : digits ≠ [])
      (decimal_digits : ∀ d ∈ digits, '0' ≤ d ∧ d ≤ '9') :
      Denotes ('{' :: (digits ++ ['}'])) (decimal digits) .keep
  | modified {digits : List Char} {letter : Char} {modifier : Modifier} (nonempty : digits ≠ [])
      (decimal_digits : ∀ d ∈ digits, '0' ≤ d ∧ d ≤ '9')
      (letter_mem : (letter, modifier) ∈ modifierLetters) :
      Denotes ('{' :: (digits ++ [letter, '}'])) (decimal digits) modifier

lemma ofDigitChars_eq_decimal (digits : List Char) :
    Nat.ofDigitChars 10 digits 0 = decimal digits := by
  induction digits using List.reverseRecOn with
  | nil => rfl
  | append_singleton digits d ih =>
    rw [Nat.ofDigitChars_append, ih, decimal, decimal, List.reverse_append]
    simp [Nat.ofDigitChars, Nat.ofDigits_cons, Nat.add_comm]

lemma ofLetter?_eq_some_iff {c : Char} {m : Modifier} :
    Modifier.ofLetter? c = some m ↔ (c, m) ∈ modifierLetters := by
  unfold Modifier.ofLetter? modifierLetters
  constructor
  · intro h
    split at h
    · next hc => rcases hc with rfl | rfl <;> cases h <;> decide
    · split at h
      · next hc => rcases hc with rfl | rfl <;> cases h <;> decide
      · split at h
        · next hc => rcases hc with rfl | rfl <;> cases h <;> decide
        · cases h
  · intro h
    simp only [List.mem_cons, Prod.mk.injEq, List.not_mem_nil, or_false] at h
    rcases h with ⟨rfl, rfl⟩ | ⟨rfl, rfl⟩ | ⟨rfl, rfl⟩ | ⟨rfl, rfl⟩ | ⟨rfl, rfl⟩ | ⟨rfl, rfl⟩ <;> rfl

lemma isDigit_iff {c : Char} : c.isDigit ↔ '0' ≤ c ∧ c ≤ '9' := by
  simp [Char.isDigit, Char.le_def]

lemma denotes_iff {written : List Char} {index : Nat} {modifier : Modifier} :
    Denotes written index modifier ↔ ∃ p : Placeholder,
      p.WellFormed ∧ p.chars = written ∧ p.index = index ∧ p.modifier = modifier := by
  constructor
  · rintro (@⟨digits, nonempty, hd⟩ | @⟨digits, letter, _, nonempty, hd, hl⟩)
    · refine ⟨⟨digits, none⟩, ⟨nonempty, fun d h => isDigit_iff.2 (hd d h), by simp⟩, rfl, ?_, rfl⟩
      exact ofDigitChars_eq_decimal digits
    · have hm := ofLetter?_eq_some_iff.2 hl
      refine ⟨⟨digits, some letter⟩, ⟨nonempty, fun d h => isDigit_iff.2 (hd d h), ?_⟩, rfl, ?_, ?_⟩
      · simp [hm]
      · exact ofDigitChars_eq_decimal digits
      · simp [Placeholder.modifier, hm]
  · rintro ⟨⟨digits, letter⟩, ⟨nonempty, hd, hl⟩, rfl, rfl, rfl⟩
    have hdigits : ∀ d ∈ digits, '0' ≤ d ∧ d ≤ '9' := fun d h => isDigit_iff.1 (hd d h)
    rw [Placeholder.index, ofDigitChars_eq_decimal]
    cases letter with
    | none => exact .bare nonempty hdigits
    | some c =>
      obtain ⟨m, hm⟩ := Option.isSome_iff_exists.1 (hl c rfl)
      have hmodifier : Placeholder.modifier ⟨digits, some c⟩ = m := by
        simp [Placeholder.modifier, hm]
      rw [hmodifier]
      exact .modified nonempty hdigits (ofLetter?_eq_some_iff.1 hm)

end Pattern

def ElementContent.isText : ElementContent → Bool
  | .text _ => true
  | .argument _ _ => false

namespace Template

variable {pattern : String}

lemma cuts_of_mem_locate {x : Pattern.Piece} {span : Span}
    (h : (x, span) ∈ locate 0 (Pattern.pieces pattern.toList)) : span.Cuts pattern x.chars := by
  obtain ⟨left, right, hpieces, rfl⟩ := mem_locate_iff.1 h
  refine ⟨left.flatMap Pattern.Piece.chars, right.flatMap Pattern.Piece.chars, ?_, by simp⟩
  rw [← Pattern.flatMap_pieces pattern.toList, hpieces]
  simp

lemma mem_locate_of_cuts {p : Pattern.Placeholder} (hp : p.WellFormed) {span : Span}
    (h : span.Cuts pattern p.chars) :
    (.placeholder p, span) ∈ locate 0 (Pattern.pieces pattern.toList) := by
  obtain ⟨before, after, hpattern, rfl⟩ := h
  obtain ⟨left, right, hpieces, hleft⟩ := Pattern.exists_pieces_eq_append hp before after
  refine mem_locate_iff.2 ⟨left, right, by rw [hpattern, hpieces], ?_⟩
  rw [hleft, Nat.zero_add, Pattern.Piece.chars]

/-- The placeholders among the pieces are all that are written in the pattern. -/
lemma placeholder_mem_locate_iff {p : Pattern.Placeholder} {span : Span} :
    (.placeholder p, span) ∈ locate 0 (Pattern.pieces pattern.toList) ↔
      p.WellFormed ∧ span.Cuts pattern p.chars := by
  constructor
  · intro mem
    obtain ⟨left, right, hpieces, -⟩ := mem_locate_iff.1 mem
    have hp := Pattern.proper_pieces pattern.toList (.placeholder p) (by simp [hpieces])
    exact ⟨hp, cuts_of_mem_locate mem⟩
  · rintro ⟨hp, hcuts⟩
    exact mem_locate_of_cuts hp hcuts

lemma mem_elements_iff_denotes {t : Template} (h : compile pattern = .ok t) {span : Span}
    {index : Nat} {modifier : Modifier} :
    ⟨.argument index modifier, span⟩ ∈ t.elements ↔
      ∃ written, span.Cuts pattern written ∧ Pattern.Denotes written index modifier := by
  obtain ⟨-, rfl⟩ := compile_eq_ok_iff.1 h
  simp only [List.mem_map, Pattern.denotes_iff]
  constructor
  · rintro ⟨⟨x, _⟩, hmem, heq⟩
    cases x with
    | text content => cases heq
    | placeholder p =>
      cases heq
      obtain ⟨hp, hcuts⟩ := placeholder_mem_locate_iff.1 hmem
      exact ⟨p.chars, hcuts, p, hp, rfl, rfl, rfl⟩
  · rintro ⟨_, hcuts, p, hp, rfl, rfl, rfl⟩
    exact ⟨(.placeholder p, span), placeholder_mem_locate_iff.2 ⟨hp, hcuts⟩, rfl⟩

lemma slice_of_mem_elements {t : Template} (h : compile pattern = .ok t) {verbatim : String}
    {span : Span} (hmem : ⟨.text verbatim, span⟩ ∈ t.elements) : span.slice pattern = verbatim := by
  obtain ⟨-, rfl⟩ := compile_eq_ok_iff.1 h
  obtain ⟨⟨x, _⟩, hx, heq⟩ := List.mem_map.1 hmem
  cases x with
  | text content =>
    cases heq
    exact (cuts_of_mem_locate hx).slice_eq
  | placeholder p => cases heq

lemma tile_elements {t : Template} (h : compile pattern = .ok t) :
    Span.Tile 0 (t.elements.map Element.span) pattern.utf8ByteSize := by
  obtain ⟨-, rfl⟩ := compile_eq_ok_iff.1 h
  have hne : ∀ x ∈ Pattern.pieces pattern.toList, x.chars ≠ [] :=
    fun x hx => (Pattern.proper_pieces pattern.toList x hx).chars_ne_nil
  have htile := tile_locate hne 0
  rw [Pattern.flatMap_pieces, byteSize_toList, Nat.zero_add] at htile
  have hspans : (locate 0 (Pattern.pieces pattern.toList)).map (Element.span ∘ Element.ofPiece) =
      (locate 0 (Pattern.pieces pattern.toList)).map Prod.snd :=
    List.map_congr_left fun x _ => Element.span_ofPiece x
  rwa [List.map_map, hspans]

lemma onBoundaries_of_mem_elements {t : Template} (h : compile pattern = .ok t) {x : Element}
    (hmem : x ∈ t.elements) : x.span.OnBoundaries pattern := by
  obtain ⟨-, rfl⟩ := compile_eq_ok_iff.1 h
  obtain ⟨located, hlocated, rfl⟩ := List.mem_map.1 hmem
  rw [Element.span_ofPiece]
  exact (cuts_of_mem_locate hlocated).onBoundaries

lemma isChain_elements {t : Template} (h : compile pattern = .ok t) :
    t.elements.IsChain fun x y => ¬(x.content.isText ∧ y.content.isText) := by
  obtain ⟨-, rfl⟩ := compile_eq_ok_iff.1 h
  have hpieces := Pattern.separated_pieces pattern.toList
  rw [Pattern.Piece.Separated, ← map_fst_locate 0 (Pattern.pieces pattern.toList),
    List.isChain_map] at hpieces
  rw [List.isChain_map]
  refine hpieces.imp ?_
  rintro ⟨x, _⟩ ⟨y, _⟩ hxy
  cases x <;> cases y <;> exact hxy

/-- The arguments of a compiled pattern are all the placeholders that are written in it, each with
its index and modifier. The other elements are the texts between them, in longest runs, and together
the elements tile the pattern. -/
theorem elements_of_compile {t : Template} (h : compile pattern = .ok t) :
    (∀ span index modifier, ⟨.argument index modifier, span⟩ ∈ t.elements ↔
      ∃ written, span.Cuts pattern written ∧ Pattern.Denotes written index modifier) ∧
    (∀ verbatim span, ⟨.text verbatim, span⟩ ∈ t.elements → span.slice pattern = verbatim) ∧
    Span.Tile 0 (t.elements.map Element.span) pattern.utf8ByteSize ∧
    (∀ x ∈ t.elements, x.span.OnBoundaries pattern) ∧
    t.elements.IsChain fun x y => ¬(x.content.isText ∧ y.content.isText) := by
  refine ⟨fun _ _ _ => mem_elements_iff_denotes h, ?_, tile_elements h, ?_, isChain_elements h⟩
  · exact fun _ _ hmem => slice_of_mem_elements h hmem
  · exact fun _ hmem => onBoundaries_of_mem_elements h hmem

/-- Near misses stand before, around and between the placeholders: a second brace, two letters, and
a digit of another script. -/
theorem elements_of_compile_near_misses :
    let pattern := "é\x7b{00}{12U}{0ss}{１}"
    let t : Template := ⟨pattern, [⟨.text "é\x7b", ⟨0, 3⟩⟩, ⟨.argument 0 .keep, ⟨3, 7⟩⟩,
      ⟨.argument 12 .upper, ⟨7, 12⟩⟩, ⟨.text "{0ss}{１}", ⟨12, 22⟩⟩]⟩
    compile pattern = .ok t ∧
      (∃ written, Span.Cuts ⟨3, 7⟩ pattern written ∧ Pattern.Denotes written 0 .keep) ∧
      ¬∃ written, Span.Cuts ⟨12, 17⟩ pattern written ∧ Pattern.Denotes written 0 .plain := by
  intro pattern t
  have h : compile pattern = .ok t := by decide +kernel
  obtain ⟨harguments, -⟩ := elements_of_compile h
  refine ⟨h, (harguments _ _ _).1 (by decide), fun hwritten => ?_⟩
  exact absurd ((harguments _ _ _).2 hwritten) (by decide)

end Template

end QueryDialect
