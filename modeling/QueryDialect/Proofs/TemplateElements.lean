import QueryDialect.Proofs.PatternPieces

/-!
# The elements of a template

A pattern compiles if the index of each of its placeholders fits in a machine word. The elements are
then its pieces, each with the bytes that it takes up, and they tile the pattern.
-/
namespace QueryDialect

open Text

namespace Text.Span

/-- The span takes this text out of the source, between two characters. -/
def Cuts (span : Span) (source : String) (written : List Char) : Prop :=
  ∃ before after, source.toList = before ++ (written ++ after) ∧
    span = ⟨byteSize before, byteSize before + byteSize written⟩

variable {span : Span} {source : String} {written : List Char}

lemma Cuts.slice_eq (h : span.Cuts source written) : span.slice source = .ofList written := by
  obtain ⟨before, after, hsource, rfl⟩ := h
  rw [← String.ofList_toList (s := source), hsource, slice_middle]

/-- Both ends of the span stand between two characters. -/
def OnBoundaries (span : Span) (source : String) : Prop :=
  String.Pos.Raw.IsValid source ⟨span.start⟩ ∧ String.Pos.Raw.IsValid source ⟨span.stop⟩

lemma isValid_byteSize {before after : List Char} (h : source.toList = before ++ after) :
    String.Pos.Raw.IsValid source ⟨byteSize before⟩ := by
  refine String.Pos.Raw.isValid_iff_exists_append.2 ⟨.ofList before, .ofList after, ?_, ?_⟩
  · rw [← String.ofList_append, ← h, String.ofList_toList]
  · rw [String.rawEndPos, utf8ByteSize_ofList]

lemma Cuts.onBoundaries (h : span.Cuts source written) : span.OnBoundaries source := by
  obtain ⟨before, after, hsource, rfl⟩ := h
  constructor
  · exact isValid_byteSize hsource
  · rw [← List.append_assoc] at hsource
    have hstop := isValid_byteSize hsource
    rwa [byteSize_append] at hstop

/-- The spans follow each other without a gap from one offset to another, and none of them is
empty. -/
def Tile : Nat → List Span → Nat → Prop
  | start, [], stop => start = stop
  | start, span :: rest, stop => span.start = start ∧ start < span.stop ∧ Tile span.stop rest stop

end Text.Span

lemma Text.byteSize_pos {cs : List Char} (h : cs ≠ []) : 0 < byteSize cs := by
  cases cs with
  | nil => exact absurd rfl h
  | cons c cs =>
    have hc := c.utf8Size_pos
    rw [byteSize_cons]
    omega

lemma bind_eq_ok_iff {ε α β : Type} {x : Except ε α} {f : α → Except ε β} {b : β} :
    x >>= f = .ok b ↔ ∃ a, x = .ok a ∧ f a = .ok b := by
  cases x <;> simp [bind, Except.bind]

def Pattern.Piece.Fits : Pattern.Piece → Prop
  | .text _ => True
  | .placeholder p => p.index < Template.indexLimit

def Element.ofPiece : Pattern.Piece × Span → Element
  | (.text content, span) => ⟨.text (.ofList content), span⟩
  | (.placeholder p, span) => ⟨.argument p.index p.modifier, span⟩

lemma Element.span_ofPiece (x : Pattern.Piece × Span) : (ofPiece x).span = x.2 := by
  obtain ⟨piece, span⟩ := x
  cases piece <;> rfl

namespace Template

lemma element_eq_ok_iff {pattern : String} {x : Pattern.Piece × Span} {y : Element} :
    element pattern x = .ok y ↔ x.1.Fits ∧ y = .ofPiece x := by
  obtain ⟨piece, span⟩ := x
  cases piece with
  | text content => simp [element, Pattern.Piece.Fits, Element.ofPiece, eq_comm]
  | placeholder p =>
    by_cases hp : p.index < indexLimit
    · simp [element, Pattern.Piece.Fits, Element.ofPiece, hp, eq_comm]
    · simp [element, Pattern.Piece.Fits, hp]

lemma mapM_element_eq_ok_iff {pattern : String} {xs : List (Pattern.Piece × Span)}
    {ys : List Element} :
    xs.mapM (element pattern) = .ok ys ↔ (∀ x ∈ xs, x.1.Fits) ∧ ys = xs.map .ofPiece := by
  induction xs generalizing ys with
  | nil => simp [pure, Except.pure, eq_comm]
  | cons x xs ih =>
    simp only [List.mapM_cons, bind_eq_ok_iff, element_eq_ok_iff, ih, List.forall_mem_cons,
      List.map_cons]
    constructor
    · rintro ⟨_, ⟨hx, rfl⟩, _, ⟨hxs, rfl⟩, h⟩
      exact ⟨⟨hx, hxs⟩, (Except.ok.inj h).symm⟩
    · rintro ⟨⟨hx, hxs⟩, rfl⟩
      exact ⟨_, ⟨hx, rfl⟩, _, ⟨hxs, rfl⟩, rfl⟩

/-- When a pattern compiles, and to what. -/
lemma compile_eq_ok_iff {pattern : String} {t : Template} :
    compile pattern = .ok t ↔
      (∀ x ∈ Pattern.pieces pattern.toList, x.Fits) ∧
        t = ⟨pattern, (locate 0 (Pattern.pieces pattern.toList)).map .ofPiece⟩ := by
  have hfits : (∀ x ∈ locate 0 (Pattern.pieces pattern.toList), x.1.Fits) ↔
      ∀ x ∈ Pattern.pieces pattern.toList, x.Fits := by
    conv_rhs => rw [← map_fst_locate 0 (Pattern.pieces pattern.toList)]
    simp only [List.forall_mem_map]
  rw [compile, bind_eq_ok_iff]
  simp only [mapM_element_eq_ok_iff, hfits]
  constructor
  · rintro ⟨_, ⟨h, rfl⟩, ht⟩
    exact ⟨h, (Except.ok.inj ht).symm⟩
  · rintro ⟨h, rfl⟩
    exact ⟨_, ⟨h, rfl⟩, rfl⟩

lemma mem_locate_iff {start : Nat} {xs : List Pattern.Piece} {x : Pattern.Piece} {span : Span} :
    (x, span) ∈ locate start xs ↔ ∃ left right, xs = left ++ x :: right ∧
      span = ⟨start + byteSize (left.flatMap Pattern.Piece.chars),
        start + byteSize (left.flatMap Pattern.Piece.chars) + byteSize x.chars⟩ := by
  induction xs generalizing start with
  | nil => simp [locate]
  | cons y ys ih =>
    rw [locate, List.mem_cons, ih]
    constructor
    · rintro (heq | ⟨left, right, rfl, rfl⟩)
      · obtain ⟨rfl, rfl⟩ := Prod.mk.inj heq
        exact ⟨[], ys, rfl, by simp⟩
      · exact ⟨y :: left, right, rfl, by simp [Nat.add_assoc]⟩
    · rintro ⟨left, right, heq, rfl⟩
      cases left with
      | nil =>
        obtain ⟨rfl, rfl⟩ := List.cons.inj heq
        exact .inl (by simp)
      | cons z left =>
        obtain ⟨rfl, rfl⟩ := List.cons.inj heq
        exact .inr ⟨left, right, rfl, by simp [Nat.add_assoc]⟩

lemma tile_locate {xs : List Pattern.Piece} (h : ∀ x ∈ xs, x.chars ≠ []) (start : Nat) :
    Span.Tile start ((locate start xs).map Prod.snd)
      (start + byteSize (xs.flatMap Pattern.Piece.chars)) := by
  induction xs generalizing start with
  | nil => rfl
  | cons x xs ih =>
    have hx := byteSize_pos (h x List.mem_cons_self)
    have hxs := ih (fun y hy => h y (List.mem_cons_of_mem _ hy)) (start + byteSize x.chars)
    rw [List.flatMap_cons, byteSize_append, ← Nat.add_assoc]
    exact ⟨rfl, by dsimp only; omega, hxs⟩

end Template

end QueryDialect
