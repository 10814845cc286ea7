import QueryDialect.Proofs.PlaceholderRanges

/-!
# Writing patterns

The contents of elements can be written as a pattern, each placeholder in one of several ways. A list
of contents is canonical if some pattern has it: then whatever way it is written in is read back as
the list. Text that ends in the front part of a placeholder is safe before another placeholder,
because the brace that opens the next one would have to stand inside the first one.
-/
namespace QueryDialect

open Text

namespace Pattern

/-- A placeholder of the language is written somewhere in the text. -/
def HoldsPlaceholder (text : List Char) : Prop :=
  ∃ before written after index modifier,
    text = before ++ (written ++ after) ∧ Denotes written index modifier

lemma holdsPlaceholder_iff {text : List Char} :
    HoldsPlaceholder text ↔ ∃ (before : List Char) (p : Placeholder) (after : List Char),
      p.WellFormed ∧ text = before ++ (p.chars ++ after) := by
  simp only [HoldsPlaceholder, denotes_iff]
  constructor
  · rintro ⟨before, _, after, _, _, htext, p, hp, rfl, -, -⟩
    exact ⟨before, p, after, hp, htext⟩
  · rintro ⟨before, p, after, hp, htext⟩
    exact ⟨before, _, after, _, _, htext, p, hp, rfl, rfl, rfl⟩

lemma HoldsPlaceholder.cons {text : List Char} (h : HoldsPlaceholder text) (c : Char) :
    HoldsPlaceholder (c :: text) := by
  obtain ⟨before, written, after, index, modifier, rfl, denotes⟩ := h
  exact ⟨c :: before, written, after, index, modifier, rfl, denotes⟩

lemma pieces_of_read? {s rest : List Char} {p : Placeholder}
    (h : Placeholder.read? s = some (p, rest)) : pieces s = .placeholder p :: pieces rest := by
  rw [pieces]
  split
  · next hread =>
    obtain ⟨rfl, rfl⟩ := Prod.mk.inj (Option.some.inj (hread.symm.trans h))
    rfl
  · next hread =>
    rw [h] at hread
    cases hread

lemma pieces_cons_of_read?_eq_none {c : Char} {s : List Char}
    (h : Placeholder.read? (c :: s) = none) : pieces (c :: s) = Piece.pushText c (pieces s) := by
  rw [pieces]
  split
  · next hread =>
    rw [h] at hread
    cases hread
  · rfl

/-- No text holds a placeholder. -/
def Plain (xs : List Piece) : Prop := ∀ content, .text content ∈ xs → ¬HoldsPlaceholder content

/-- A placeholder that is read at the front of a text before other pieces lies in the text. -/
lemma read?_append_eq_none {content : List Char} (nonempty : content ≠ [])
    (plain : ¬HoldsPlaceholder content) {rest : List Piece}
    (next : ∀ y ∈ rest.head?, y.isText = false) :
    Placeholder.read? (content ++ rest.flatMap Piece.chars) = none := by
  by_contra some
  obtain ⟨⟨q, after⟩, hread⟩ := Option.ne_none_iff_exists'.1 some
  obtain ⟨hq, hsplit⟩ := Placeholder.eq_of_read? hread
  cases rest with
  | nil =>
    rw [List.flatMap_nil, List.append_nil] at hsplit
    exact plain (holdsPlaceholder_iff.2 ⟨[], q, after, hq, hsplit⟩)
  | cons y ys =>
    cases y with
    | text other =>
      have hother := next (.text other) rfl
      cases hother
    | placeholder p =>
      rw [List.flatMap_cons] at hsplit
      rcases Placeholder.eq_nil_or_chars_append hq hsplit.symm with empty | ⟨between, hcontent, -⟩
      · exact nonempty empty
      · exact plain (holdsPlaceholder_iff.2 ⟨[], q, between, hq, hcontent⟩)

lemma pieces_text_append {content : List Char} (nonempty : content ≠ [])
    (plain : ¬HoldsPlaceholder content) {rest : List Piece}
    (next : ∀ y ∈ rest.head?, y.isText = false) (hrest : pieces (rest.flatMap Piece.chars) = rest) :
    pieces (content ++ rest.flatMap Piece.chars) = .text content :: rest := by
  induction content with
  | nil => exact absurd rfl nonempty
  | cons c cs ih =>
    have hnone := read?_append_eq_none nonempty plain next
    rw [List.cons_append] at hnone ⊢
    rw [pieces_cons_of_read?_eq_none hnone]
    cases cs with
    | nil =>
      rw [List.nil_append, hrest]
      cases rest with
      | nil => rfl
      | cons y ys =>
        cases y with
        | text other =>
          have hother := next (.text other) rfl
          cases hother
        | placeholder p => rfl
    | cons d ds =>
      have tail : ¬HoldsPlaceholder (d :: ds) := fun h => plain (h.cons c)
      rw [ih (by simp) tail]
      rfl

/-- Pieces that can be read at all are read back from what is written for them. -/
lemma pieces_flatMap_chars {xs : List Piece} (proper : ∀ x ∈ xs, x.Proper)
    (separated : Piece.Separated xs) (plain : Plain xs) : pieces (xs.flatMap Piece.chars) = xs := by
  induction xs with
  | nil => simp
  | cons x rest ih =>
    obtain ⟨hx, hproper⟩ := List.forall_mem_cons.1 proper
    have hplain : Plain rest := fun content mem => plain content (List.mem_cons_of_mem x mem)
    have hrest := ih hproper separated.tail hplain
    rw [List.flatMap_cons]
    cases x with
    | placeholder p =>
      have hread := Placeholder.read?_chars_append hx (rest.flatMap Piece.chars)
      rw [Piece.chars, pieces_of_read? hread, hrest]
    | text content =>
      have next := separated.isText_head?
      exact pieces_text_append hx (plain content List.mem_cons_self) next hrest

/-- A text piece gets a character in front only where no placeholder begins. -/
lemma plain_pushText {c : Char} {xs : List Piece} (plain : Plain xs)
    (hread : Placeholder.read? (c :: xs.flatMap Piece.chars) = none) :
    Plain (Piece.pushText c xs) := by
  have front {content : List Char} (rest : List Piece)
      (hrest : xs.flatMap Piece.chars = content ++ rest.flatMap Piece.chars)
      (hcontent : ¬HoldsPlaceholder content) : ¬HoldsPlaceholder (c :: content) := by
    intro h
    obtain ⟨before, p, after, hp, htext⟩ := holdsPlaceholder_iff.1 h
    cases before with
    | nil =>
      have hwhole : c :: xs.flatMap Piece.chars =
          p.chars ++ (after ++ rest.flatMap Piece.chars) := by
        rw [hrest, ← List.cons_append, htext, List.nil_append, List.append_assoc]
      rw [hwhole, Placeholder.read?_chars_append hp] at hread
      cases hread
    | cons b bs =>
      have htail : content = bs ++ (p.chars ++ after) := (List.cons.inj htext).2
      exact hcontent (holdsPlaceholder_iff.2 ⟨bs, p, after, hp, htail⟩)
  have nothing : ¬HoldsPlaceholder [] := by
    intro h
    obtain ⟨before, p, after, -, htext⟩ := holdsPlaceholder_iff.1 h
    simp [Placeholder.chars] at htext
  intro content mem
  unfold Piece.pushText at mem
  split at mem
  · next other rest =>
    rcases List.mem_cons.1 mem with same | mem
    · cases same
      exact front rest (List.flatMap_cons ..) (plain other List.mem_cons_self)
    · exact plain content (List.mem_cons_of_mem _ mem)
  · rcases List.mem_cons.1 mem with same | mem
    · cases same
      exact front xs rfl nothing
    · exact plain content mem

lemma plain_pieces (s : List Char) : Plain (pieces s) := by
  fun_induction pieces s with
  | case1 s p rest h ih =>
    intro content mem
    exact ih content (by simpa using mem)
  | case2 =>
    intro content mem
    cases mem
  | case3 c cs hread ih =>
    refine plain_pushText ih ?_
    rwa [flatMap_pieces]

/-- A way to write a placeholder: with zeros in front of its number, and with a small or a capital
letter. -/
structure Spelling where
  zeros : Nat
  capital : Bool
  deriving DecidableEq, Repr

/-- As few digits as there can be, and a small letter. -/
def Spelling.least : Spelling := ⟨0, false⟩

end Pattern

open Pattern (Spelling)

def Modifier.letter? (capital : Bool) : Modifier → Option Char
  | keep => none
  | plain => some (if capital then 'S' else 's')
  | lower => some (if capital then 'L' else 'l')
  | upper => some (if capital then 'U' else 'u')

lemma Modifier.ofLetter?_of_mem_letter? {capital : Bool} {modifier : Modifier} {c : Char}
    (h : c ∈ modifier.letter? capital) : ofLetter? c = some modifier := by
  cases modifier with
  | keep => cases h
  | plain | lower | upper => cases capital <;> (obtain rfl := Option.some.inj h) <;> rfl

def Pattern.Placeholder.spell (s : Spelling) (index : Nat) (modifier : Modifier) : Placeholder :=
  ⟨List.replicate s.zeros '0' ++ Nat.toDigits 10 index, modifier.letter? s.capital⟩

namespace Pattern.Placeholder

lemma wellFormed_spell (s : Spelling) (index : Nat) (modifier : Modifier) :
    (spell s index modifier).WellFormed where
  digits_ne_nil := by
    have hdigits : Nat.toDigits 10 index ≠ [] := Nat.toDigits_ne_nil
    simp [spell, hdigits]
  digits_decimal := by
    intro c hc
    rcases List.mem_append.1 hc with hzero | hdigit
    · rw [List.eq_of_mem_replicate hzero]
      decide
    · exact Nat.isDigit_of_mem_toDigits (by decide) (by decide) hdigit
  letter_modifier := by
    intro c hc
    rw [Modifier.ofLetter?_of_mem_letter? hc]
    rfl

lemma index_spell (s : Spelling) (index : Nat) (modifier : Modifier) :
    (spell s index modifier).index = index := by
  rw [Placeholder.index, spell, Nat.ofDigitChars_append, Nat.ofDigitChars_replicate_zero,
    Nat.mul_zero, Nat.ofDigitChars_ten_toDigits]

lemma modifier_spell (s : Spelling) (index : Nat) (modifier : Modifier) :
    (spell s index modifier).modifier = modifier := by
  cases hletter : modifier.letter? s.capital with
  | none =>
    cases modifier with
    | keep => rfl
    | plain | lower | upper => cases hletter
  | some c =>
    have hc := Modifier.ofLetter?_of_mem_letter? hletter
    simp [Placeholder.modifier, spell, hletter, hc]

end Pattern.Placeholder

/-- The content of the element that the piece becomes. -/
def Pattern.Piece.content : Piece → ElementContent
  | .text content => .text (.ofList content)
  | .placeholder p => .argument p.index p.modifier

namespace ElementContent

/-- The content as a piece of a pattern. -/
def piece (s : Spelling) : ElementContent → Pattern.Piece
  | text verbatim => .text verbatim.toList
  | argument index modifier => .placeholder (.spell s index modifier)

lemma content_piece (s : Spelling) (c : ElementContent) : (c.piece s).content = c := by
  cases c with
  | text verbatim => simp [piece, Pattern.Piece.content]
  | argument index modifier =>
    simp [piece, Pattern.Piece.content, Pattern.Placeholder.index_spell,
      Pattern.Placeholder.modifier_spell]

lemma isText_piece (s : Spelling) (c : ElementContent) : (c.piece s).isText = c.isText := by
  cases c <;> rfl

/-- The pattern in which each content is written in the way that stands beside it. -/
def written (spelled : List (ElementContent × Spelling)) : String :=
  .ofList ((spelled.map fun x => x.1.piece x.2).flatMap Pattern.Piece.chars)

/-- Contents that a pattern can have: no text is empty, beside another one, or holds a placeholder,
and indices fit in a machine word. -/
structure Canonical (contents : List ElementContent) : Prop where
  text_ne_empty : ∀ verbatim, text verbatim ∈ contents → verbatim ≠ ""
  separated : contents.IsChain fun x y => ¬(x.isText ∧ y.isText)
  text_plain : ∀ verbatim, text verbatim ∈ contents → ¬Pattern.HoldsPlaceholder verbatim.toList
  index_lt : ∀ index modifier, argument index modifier ∈ contents → index < Template.indexLimit

end ElementContent

namespace Template

open ElementContent (Canonical written)

def contents (t : Template) : List ElementContent := t.elements.map Element.content

lemma contents_of_compile {pattern : String} {t : Template} (h : compile pattern = .ok t) :
    t.contents = (Pattern.pieces pattern.toList).map Pattern.Piece.content := by
  obtain ⟨-, rfl⟩ := compile_eq_ok_iff.1 h
  have hcontent : Element.content ∘ Element.ofPiece = Pattern.Piece.content ∘ Prod.fst := by
    funext ⟨piece, span⟩
    cases piece <;> rfl
  rw [contents, List.map_map, hcontent, ← List.map_map, map_fst_locate]

/-- The pieces that are written for canonical contents are read back. -/
lemma pieces_written {spelled : List (ElementContent × Pattern.Spelling)}
    (h : Canonical (spelled.map Prod.fst)) :
    Pattern.pieces (written spelled).toList = spelled.map fun x => x.1.piece x.2 := by
  have texts {content : List Char} (mem : .text content ∈ spelled.map fun x => x.1.piece x.2) :
      .text (.ofList content) ∈ spelled.map Prod.fst := by
    obtain ⟨x, hx, same⟩ := List.mem_map.1 mem
    have hcontent := congrArg Pattern.Piece.content same
    rw [ElementContent.content_piece] at hcontent
    exact List.mem_map.2 ⟨x, hx, hcontent⟩
  rw [written, String.toList_ofList]
  refine Pattern.pieces_flatMap_chars ?_ ?_ ?_
  · intro x mem
    cases x with
    | text content =>
      have hne := h.text_ne_empty _ (texts mem)
      simpa [Pattern.Piece.Proper] using hne
    | placeholder p =>
      obtain ⟨⟨c, s⟩, -, same⟩ := List.mem_map.1 mem
      cases c with
      | text verbatim => cases same
      | argument index modifier =>
        cases same
        exact Pattern.Placeholder.wellFormed_spell s index modifier
  · have hchain := h.separated
    rw [List.isChain_map] at hchain
    rw [Pattern.Piece.Separated, List.isChain_map]
    simpa only [ElementContent.isText_piece] using hchain
  · intro content mem
    have hplain := h.text_plain _ (texts mem)
    rwa [String.toList_ofList] at hplain

/-- Canonical contents are those of every pattern they can be written as. -/
lemma compile_written {spelled : List (ElementContent × Pattern.Spelling)}
    (h : Canonical (spelled.map Prod.fst)) :
    ∃ t, compile (written spelled) = .ok t ∧ t.contents = spelled.map Prod.fst := by
  have hpieces := pieces_written h
  have fits : ∀ x ∈ Pattern.pieces (written spelled).toList, x.Fits := by
    intro x mem
    rw [hpieces] at mem
    obtain ⟨⟨c, s⟩, hmem, rfl⟩ := List.mem_map.1 mem
    cases c with
    | text verbatim => trivial
    | argument index modifier =>
      have small := h.index_lt index modifier (List.mem_map.2 ⟨_, hmem, rfl⟩)
      rwa [ElementContent.piece, Pattern.Piece.Fits, Pattern.Placeholder.index_spell]
  have hcompile := compile_eq_ok_iff.2 ⟨fits, rfl⟩
  refine ⟨_, hcompile, ?_⟩
  rw [contents_of_compile hcompile, hpieces, List.map_map]
  exact List.map_congr_left fun x _ => ElementContent.content_piece x.2 x.1

lemma canonical_contents {pattern : String} {t : Template} (h : compile pattern = .ok t) :
    Canonical t.contents := by
  have hcontents := contents_of_compile h
  have texts {verbatim : String} (mem : .text verbatim ∈ t.contents) :
      .text verbatim.toList ∈ Pattern.pieces pattern.toList := by
    rw [hcontents] at mem
    obtain ⟨x, hx, same⟩ := List.mem_map.1 mem
    cases x with
    | text content =>
      cases same
      rwa [String.toList_ofList]
    | placeholder p => cases same
  refine ⟨fun verbatim mem => ?_, ?_, fun verbatim mem => ?_, fun index modifier mem => ?_⟩
  · have hproper := Pattern.proper_pieces pattern.toList _ (texts mem)
    rintro rfl
    exact hproper rfl
  · have hchain := isChain_elements h
    rwa [contents, List.isChain_map]
  · exact Pattern.plain_pieces pattern.toList _ (texts mem)
  · rw [hcontents] at mem
    obtain ⟨x, hx, same⟩ := List.mem_map.1 mem
    have hfits := (compile_eq_ok_iff.1 h).1 x hx
    cases x with
    | text content => cases same
    | placeholder p =>
      cases same
      exact hfits

end Template

end QueryDialect
