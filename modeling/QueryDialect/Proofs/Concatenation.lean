import QueryDialect.Proofs.Outcome
import QueryDialect.Proofs.PatternWriting

/-!
# Patterns one behind another

Two patterns can be written one behind the other. If no placeholder comes about across the border,
the elements of the whole are those of the two parts, except that texts which meet are joined, and
rendering the whole is rendering the parts. A brace at the border keeps the parts from each other.
-/
namespace QueryDialect

open Text

namespace Pattern

/-- A placeholder of the language begins in the first text and ends in the second one. -/
def Straddles (s t : List Char) : Prop :=
  ∃ before front back after index modifier, s = before ++ front ∧ t = back ++ after ∧
    front ≠ [] ∧ back ≠ [] ∧ Denotes (front ++ back) index modifier

variable {s t : List Char}

lemma Straddles.extend (h : Straddles s t) (before after : List Char) :
    Straddles (before ++ s) (t ++ after) := by
  obtain ⟨before', front, back, after', index, modifier, rfl, rfl, hfront, hback, denotes⟩ := h
  exact ⟨before ++ before', front, back, after' ++ after, index, modifier, by simp, by simp, hfront,
    hback, denotes⟩

lemma Placeholder.chars_eq_concat (p : Placeholder) :
    p.chars = '{' :: (p.digits ++ p.letter.toList) ++ ['}'] := by
  simp [chars]

lemma Placeholder.WellFormed.brace_not_mem_front {p : Placeholder} (h : p.WellFormed) :
    '}' ∉ '{' :: (p.digits ++ p.letter.toList) := by
  intro mem
  rcases List.mem_cons.1 mem with same | mem
  · cases same
  rcases List.mem_append.1 mem with digit | letter
  · have decimal := h.digits_decimal _ digit
    simp at decimal
  · have modifier := h.letter_modifier _ (by simpa using letter)
    simp [Modifier.ofLetter?] at modifier

/-- A placeholder across the border has no brace of its own next to the border. -/
lemma Straddles.no_brace (h : Straddles s t) : s.getLast? ≠ some '}' ∧ t.head? ≠ some '{' := by
  obtain ⟨before, front, back, after, index, modifier, rfl, rfl, hfront, hback, denotes⟩ := h
  obtain ⟨p, wellFormed, chars, -, -⟩ := denotes_iff.1 denotes
  constructor
  · intro last
    -- the brace would stand in the placeholder, before its end
    rw [List.getLast?_append_of_ne_nil _ hfront] at last
    have split := congrArg List.dropLast chars
    rw [Placeholder.chars_eq_concat, List.dropLast_concat, List.dropLast_append_of_ne_nil hback]
      at split
    refine wellFormed.brace_not_mem_front ?_
    rw [split]
    exact List.mem_append_left _ (List.mem_of_getLast? last)
  · intro first
    -- the brace would stand in the placeholder, behind its beginning
    rw [List.head?_append_of_ne_nil _ hback] at first
    have split := congrArg List.tail chars
    rw [Placeholder.chars, List.tail_cons, List.tail_append_of_ne_nil hfront] at split
    refine wellFormed.brace_not_mem_body ?_
    rw [split]
    exact List.mem_append_right _ (List.mem_of_head? first)

lemma not_straddles_of_ends {written : List Char} {index : Nat} {modifier : Modifier}
    (denotes : Denotes written index modifier) (before : List Char) :
    ¬Straddles (before ++ written) t := by
  obtain ⟨p, -, rfl, -, -⟩ := denotes_iff.1 denotes
  intro h
  refine h.no_brace.1 ?_
  rw [Placeholder.chars_eq_concat, ← List.append_assoc, List.getLast?_concat]

lemma not_straddles_of_begins {written : List Char} {index : Nat} {modifier : Modifier}
    (denotes : Denotes written index modifier) (after : List Char) :
    ¬Straddles s (written ++ after) := by
  obtain ⟨p, -, rfl, -, -⟩ := denotes_iff.1 denotes
  intro h
  exact h.no_brace.2 rfl

/-- Where two texts meet, a placeholder comes about only across the border. -/
lemma not_holdsPlaceholder_append (hs : ¬HoldsPlaceholder s) (ht : ¬HoldsPlaceholder t)
    (h : ¬Straddles s t) : ¬HoldsPlaceholder (s ++ t) := by
  rintro ⟨before, written, after, index, modifier, whole, denotes⟩
  rcases List.append_eq_append_iff.1 whole with ⟨between, -, rfl⟩ | ⟨front, rfl, behind⟩
  · exact ht ⟨between, written, after, index, modifier, rfl, denotes⟩
  rcases List.append_eq_append_iff.1 behind with ⟨between, rfl, -⟩ | ⟨back, rfl, rfl⟩
  · exact hs ⟨before, written, between, index, modifier, rfl, denotes⟩
  rcases eq_or_ne front [] with rfl | hfront
  · exact ht ⟨[], _, after, index, modifier, rfl, denotes⟩
  rcases eq_or_ne back [] with rfl | hback
  · rw [List.append_nil] at denotes
    exact hs ⟨before, front, [], index, modifier, by rw [List.append_nil], denotes⟩
  exact h ⟨before, front, back, after, index, modifier, rfl, rfl, hfront, hback, denotes⟩

/-- Pieces that no text is joined of stay as they are. -/
lemma pieces_append
    (apart : ∀ x ∈ (pieces s).getLast?, ∀ y ∈ (pieces t).head?, ¬(x.isText ∧ y.isText)) :
    pieces (s ++ t) = pieces s ++ pieces t := by
  have proper : ∀ x ∈ pieces s ++ pieces t, x.Proper :=
    List.forall_mem_append.2 ⟨proper_pieces s, proper_pieces t⟩
  have separated : Piece.Separated (pieces s ++ pieces t) :=
    List.isChain_append.2 ⟨separated_pieces s, separated_pieces t, apart⟩
  have plain : Plain (pieces s ++ pieces t) := by
    intro content mem
    rcases List.mem_append.1 mem with mem | mem
    · exact plain_pieces s content mem
    · exact plain_pieces t content mem
  have written := pieces_flatMap_chars proper separated plain
  rwa [List.flatMap_append, flatMap_pieces, flatMap_pieces] at written

/-- Two texts that meet become one. -/
lemma pieces_append_of_texts {xs ys : List Piece} {content behind : List Char}
    (hs : pieces s = xs ++ [.text content]) (ht : pieces t = .text behind :: ys)
    (h : ¬Straddles s t) : pieces (s ++ t) = xs ++ .text (content ++ behind) :: ys := by
  have unheld : ¬HoldsPlaceholder (content ++ behind) := by
    refine not_holdsPlaceholder_append ?_ ?_ fun across => h ?_
    · exact plain_pieces s content (by simp [hs])
    · exact plain_pieces t behind (by simp [ht])
    · have whole := across.extend (xs.flatMap Piece.chars) (ys.flatMap Piece.chars)
      rw [← flatMap_pieces s, ← flatMap_pieces t, hs, ht]
      simpa [Piece.chars] using whole
  have properS := proper_pieces s
  have properT := proper_pieces t
  have separatedS := separated_pieces s
  have separatedT := separated_pieces t
  rw [hs, List.forall_mem_append] at properS
  rw [ht, List.forall_mem_cons] at properT
  rw [hs, Piece.Separated, List.isChain_append] at separatedS
  rw [ht, Piece.Separated, List.isChain_cons] at separatedT
  have proper : ∀ x ∈ xs ++ .text (content ++ behind) :: ys, x.Proper := by
    have nonempty : content ++ behind ≠ [] := List.append_ne_nil_of_right_ne_nil _ properT.1
    exact List.forall_mem_append.2 ⟨properS.1, List.forall_mem_cons.2 ⟨nonempty, properT.2⟩⟩
  have separated : Piece.Separated (xs ++ .text (content ++ behind) :: ys) := by
    refine List.isChain_append.2 ⟨separatedS.1, List.isChain_cons.2 separatedT, ?_⟩
    rintro x last y ⟨⟩
    exact separatedS.2.2 x last (.text content) rfl
  have plain : Plain (xs ++ .text (content ++ behind) :: ys) := by
    intro other mem
    rcases List.mem_append.1 mem with mem | mem
    · exact plain_pieces s other (hs ▸ List.mem_append_left _ mem)
    rcases List.mem_cons.1 mem with same | mem
    · cases same
      exact unheld
    · exact plain_pieces t other (ht ▸ List.mem_cons_of_mem _ mem)
  have written := pieces_flatMap_chars proper separated plain
  rw [← flatMap_pieces s, ← flatMap_pieces t, hs, ht]
  simpa [Piece.chars] using written

/-- The pieces of one text and those of another one behind it. -/
inductive Piece.Joined : List Piece → List Piece → List Piece → Prop
  | texts (xs ys : List Piece) (content behind : List Char) :
      Joined (xs ++ [.text content]) (.text behind :: ys) (xs ++ .text (content ++ behind) :: ys)
  | apart {xs ys : List Piece}
      (h : ∀ x ∈ xs.getLast?, ∀ y ∈ ys.head?, ¬(x.isText ∧ y.isText)) : Joined xs ys (xs ++ ys)

lemma joined_pieces (h : ¬Straddles s t) :
    Piece.Joined (pieces s) (pieces t) (pieces (s ++ t)) := by
  by_cases texts : ∃ xs content behind ys,
      pieces s = xs ++ [.text content] ∧ pieces t = .text behind :: ys
  · obtain ⟨xs, content, behind, ys, hs, ht⟩ := texts
    rw [pieces_append_of_texts hs ht h, hs, ht]
    exact .texts xs ys content behind
  · have apart : ∀ x ∈ (pieces s).getLast?, ∀ y ∈ (pieces t).head?, ¬(x.isText ∧ y.isText) := by
      rintro x last y first ⟨left, right⟩
      obtain ⟨xs, hs⟩ := List.getLast?_eq_some_iff.1 last
      obtain ⟨ys, ht⟩ := List.head?_eq_some_iff.1 first
      cases x with
      | placeholder p => cases left
      | text content =>
        cases y with
        | placeholder p => cases right
        | text behind => exact texts ⟨xs, content, behind, ys, hs, ht⟩
    rw [pieces_append apart]
    exact .apart apart

end Pattern

/-- The span in a text that begins so many bytes earlier. -/
def Text.Span.shift (offset : Nat) (span : Span) : Span := ⟨span.start + offset, span.stop + offset⟩

/-- The element in a pattern that begins so many bytes earlier. -/
def Element.shift (offset : Nat) (x : Element) : Element := ⟨x.content, x.span.shift offset⟩

/-- The elements of one pattern and those of another one behind it. Two texts that meet become one,
with the span of both. -/
inductive Element.Joined : List Element → List Element → List Element → Prop
  | texts {front back : List Element} {verbatim behind : String} {span next : Span} :
      Joined (front ++ [⟨.text verbatim, span⟩]) (⟨.text behind, next⟩ :: back)
        (front ++ ⟨.text (verbatim ++ behind), ⟨span.start, next.stop⟩⟩ :: back)
  | apart {front back : List Element}
      (h : ∀ x ∈ front.getLast?, ∀ y ∈ back.head?, ¬(x.content.isText ∧ y.content.isText)) :
      Joined front back (front ++ back)

/-- The same error of a template in which that template begins at an offset. -/
def RenderingError.within (source : String) (offset : Nat) (e : RenderingError) :
    RenderingError where
  fault := match e.fault with
    | .indexOutOfRange index count (.template _) => .indexOutOfRange index count (.template source)
    | fault => fault
  span := e.span.map (Span.shift offset)
  cause := e.cause

lemma Element.shift_ofPiece (offset : Nat) (x : Pattern.Piece) (span : Span) :
    (ofPiece (x, span)).shift offset = ofPiece (x, span.shift offset) := by
  cases x <;> rfl

lemma Element.isText_ofPiece (x : Pattern.Piece × Span) :
    (ofPiece x).content.isText = x.1.isText := by
  obtain ⟨piece, span⟩ := x
  cases piece <;> rfl

namespace Template

open Pattern (Piece)

/-- The elements that pieces become, given the byte offset of the first one. -/
def elementsAt (start : Nat) (xs : List Piece) : List Element := (locate start xs).map .ofPiece

lemma elementsAt_cons (start : Nat) (x : Piece) (xs : List Piece) :
    elementsAt start (x :: xs) =
      .ofPiece (x, ⟨start, start + byteSize x.chars⟩) :: elementsAt (start + byteSize x.chars) xs :=
  rfl

lemma elementsAt_append (start : Nat) (xs ys : List Piece) :
    elementsAt start (xs ++ ys) =
      elementsAt start xs ++ elementsAt (start + byteSize (xs.flatMap Piece.chars)) ys := by
  induction xs generalizing start with
  | nil => rfl
  | cons x xs ih =>
    rw [List.cons_append, elementsAt_cons, elementsAt_cons, ih, List.flatMap_cons, byteSize_append,
      Nat.add_assoc, List.cons_append]

lemma elementsAt_shift (offset start : Nat) (xs : List Piece) :
    (elementsAt start xs).map (.shift offset) = elementsAt (start + offset) xs := by
  induction xs generalizing start with
  | nil => rfl
  | cons x xs ih =>
    rw [elementsAt_cons, elementsAt_cons, List.map_cons, ih, Element.shift_ofPiece, Span.shift,
      Nat.add_right_comm]

lemma map_isText_elementsAt (start : Nat) (xs : List Piece) :
    (elementsAt start xs).map (fun x => x.content.isText) = xs.map Piece.isText := by
  conv_rhs => rw [← map_fst_locate start xs]
  rw [elementsAt, List.map_map, List.map_map]
  exact List.map_congr_left fun x _ => Element.isText_ofPiece x

lemma fits_of_joined {xs ys zs : List Piece} (h : Piece.Joined xs ys zs) (hxs : ∀ x ∈ xs, x.Fits)
    (hys : ∀ y ∈ ys, y.Fits) : ∀ z ∈ zs, z.Fits := by
  cases h with
  | texts xs ys content behind =>
    obtain ⟨front, -⟩ := List.forall_mem_append.1 hxs
    obtain ⟨-, back⟩ := List.forall_mem_cons.1 hys
    exact List.forall_mem_append.2 ⟨front, List.forall_mem_cons.2 ⟨trivial, back⟩⟩
  | apart => exact List.forall_mem_append.2 ⟨hxs, hys⟩

lemma joined_elementsAt {xs ys zs : List Piece} (h : Piece.Joined xs ys zs) :
    Element.Joined (elementsAt 0 xs) (elementsAt (byteSize (xs.flatMap Piece.chars)) ys)
      (elementsAt 0 zs) := by
  cases h with
  | texts xs ys content behind =>
    rw [List.flatMap_append, byteSize_append, elementsAt_append, elementsAt_append, Nat.zero_add]
    generalize byteSize (xs.flatMap Piece.chars) = start
    have whole : elementsAt start (.text (content ++ behind) :: ys) =
        ⟨.text (.ofList content ++ .ofList behind),
          ⟨start, start + byteSize content + byteSize behind⟩⟩ ::
        elementsAt (start + byteSize content + byteSize behind) ys := by
      rw [elementsAt_cons, Piece.chars, byteSize_append, ← Nat.add_assoc, ← String.ofList_append]
      rfl
    rw [whole, List.flatMap_singleton]
    exact .texts
  | apart h =>
    rw [elementsAt_append, Nat.zero_add]
    refine .apart fun x last y first => ?_
    have left := Option.mem_map_of_mem (fun x => x.content.isText) last
    have right := Option.mem_map_of_mem (fun x => x.content.isText) first
    rw [← List.getLast?_map, map_isText_elementsAt, List.getLast?_map] at left
    rw [← List.head?_map, map_isText_elementsAt, List.head?_map] at right
    obtain ⟨x', last', same⟩ := Option.mem_map.1 left
    obtain ⟨y', first', same'⟩ := Option.mem_map.1 right
    rw [← same, ← same']
    exact h x' last' y' first'

variable {p q : String} {t v : Template}

lemma exists_compile_append (hp : compile p = .ok t) (hq : compile q = .ok v)
    (h : ¬Pattern.Straddles p.toList q.toList) : ∃ u, compile (p ++ q) = .ok u ∧
      Element.Joined t.elements (v.elements.map (.shift p.utf8ByteSize)) u.elements := by
  obtain ⟨fitsP, rfl⟩ := compile_eq_ok_iff.1 hp
  obtain ⟨fitsQ, rfl⟩ := compile_eq_ok_iff.1 hq
  have joined := Pattern.joined_pieces h
  rw [← String.toList_append] at joined
  refine ⟨_, compile_eq_ok_iff.2 ⟨fits_of_joined joined fitsP fitsQ, rfl⟩, ?_⟩
  have elements := joined_elementsAt joined
  rwa [Pattern.flatMap_pieces, byteSize_toList, ← Nat.zero_add p.utf8ByteSize, ← elementsAt_shift]
    at elements

section Rendering

variable {m : Type → Type} [Monad m] [LawfulMonad m] {render : Element → m String}

lemma renderAll_append (xs ys : List Element) :
    renderAll render (xs ++ ys) = (do
      let front ← renderAll render xs
      let back ← renderAll render ys
      return front ++ back) := by
  induction xs with
  | nil => simp only [List.nil_append, renderAll, pure_bind, String.empty_append, bind_pure]
  | cons x xs ih =>
    simp only [List.cons_append, renderAll, ih, bind_assoc, pure_bind, String.append_assoc]

/-- It makes no difference whether texts are joined before they are rendered or afterwards. -/
lemma renderAll_joined {xs ys zs : List Element} (h : Element.Joined xs ys zs)
    (verbatim : ∀ text span, render ⟨.text text, span⟩ = pure text) :
    renderAll render zs = (do
      let front ← renderAll render xs
      let back ← renderAll render ys
      return front ++ back) := by
  cases h with
  | texts =>
    simp only [renderAll_append, renderAll, verbatim, bind_assoc, pure_bind, String.append_assoc,
      String.append_empty]
  | apart => exact renderAll_append xs ys

variable {α ε δ : Type}

lemma renderAll_mapError (f : ε → δ) (render : Element → Except ε String) (xs : List Element) :
    renderAll (fun x => (render x).mapError f) xs = (renderAll render xs).mapError f := by
  induction xs with
  | nil => rfl
  | cons x xs ih =>
    rw [renderAll, renderAll, ih]
    cases render x with
    | error e => rfl
    | ok head => cases renderAll render xs <;> rfl

/-- The text of an element where asking for an argument never fails. -/
def partOf (t : Template) (args : List α) (textOf : α → TextForm → String) :
    Element → Except RenderingError String :=
  t.renderElement args .error fun arg form => .ok (textOf arg form)

lemma render_eq_renderAll (t : Template) (args : List α) (textOf : α → TextForm → String) :
    t.render args textOf = renderAll (t.partOf args textOf) t.elements := by
  rw [render, renderWith_eq_renderAll]
  rfl

lemma partOf_shift (t u : Template) (offset : Nat) (args : List α) (textOf : α → TextForm → String)
    (x : Element) : u.partOf args textOf (x.shift offset) =
      (t.partOf args textOf x).mapError (.within u.source offset) := by
  obtain ⟨content, span⟩ := x
  cases content with
  | text verbatim => rfl
  | argument index modifier =>
    simp only [partOf, renderElement, Element.shift]
    cases args[index]? <;> rfl

/-- The elements of a template are rendered in another one as they are on their own. -/
lemma renderAll_shift (t u : Template) (offset : Nat) (args : List α)
    (textOf : α → TextForm → String) :
    renderAll (u.partOf args textOf) (t.elements.map (.shift offset)) =
      (t.render args textOf).mapError (.within u.source offset) := by
  rw [render_eq_renderAll, ← renderAll_mapError]
  induction t.elements with
  | nil => rfl
  | cons x xs ih => rw [List.map_cons, renderAll, renderAll, ih, partOf_shift t]

lemma render_joined {t v u : Template} {offset : Nat}
    (h : Element.Joined t.elements (v.elements.map (.shift offset)) u.elements) (args : List α)
    (textOf : α → TextForm → String) :
    u.render args textOf = (do
      let front ← (t.render args textOf).mapError (.within u.source 0)
      let back ← (v.render args textOf).mapError (.within u.source offset)
      return front ++ back) := by
  have unmoved : t.elements = t.elements.map (.shift 0) := (List.map_id t.elements).symm
  rw [unmoved] at h
  rw [render_eq_renderAll, renderAll_joined h fun text span => rfl, renderAll_shift,
    renderAll_shift]

end Rendering

/-- Two patterns that compile can be written one behind the other, as long as no placeholder comes
about across the border. Then the whole compiles as well. Its elements are those of the first
pattern and, moved behind them, those of the second one, except that two texts which meet are
joined. It is rendered like the first pattern and then the second one, and it fails just when one of
them fails, with the first of their errors. Nothing comes about across the border where the first
pattern ends with a placeholder or the second one begins with one. -/
theorem compile_append (p q : String) :
    (∀ t v, compile p = .ok t → compile q = .ok v → ¬Pattern.Straddles p.toList q.toList →
      ∃ u, compile (p ++ q) = .ok u ∧
        Element.Joined t.elements (v.elements.map (.shift p.utf8ByteSize)) u.elements ∧
        ∀ (α : Type) (args : List α) (textOf : α → TextForm → String),
          u.render args textOf = do
            let front ← (t.render args textOf).mapError (.within (p ++ q) 0)
            let back ← (v.render args textOf).mapError (.within (p ++ q) p.utf8ByteSize)
            return front ++ back) ∧
    ∀ written index modifier, Pattern.Denotes written index modifier →
      (written <:+ p.toList ∨ written <+: q.toList) → ¬Pattern.Straddles p.toList q.toList := by
  refine ⟨fun t v hp hq h => ?_, fun written index modifier denotes border => ?_⟩
  · obtain ⟨u, hu, joined⟩ := exists_compile_append hp hq h
    refine ⟨u, hu, joined, fun α args textOf => ?_⟩
    rw [← source_of_compile hu]
    exact render_joined joined args textOf
  · rcases border with ⟨before, ends⟩ | ⟨after, begins⟩
    · rw [← ends]
      exact Pattern.not_straddles_of_ends denotes before
    · rw [← begins]
      exact Pattern.not_straddles_of_begins denotes after

/-- A closing and an opening brace meet, in texts that are joined. The other two patterns only look
as if a placeholder came about. -/
theorem compile_append_braces :
    let p := "{0} ü\x7d"
    let q := "\x7b{1u}"
    let t : Template := ⟨p, [⟨.argument 0 .keep, ⟨0, 3⟩⟩, ⟨.text " ü\x7d", ⟨3, 7⟩⟩]⟩
    let v : Template := ⟨q, [⟨.text "\x7b", ⟨0, 1⟩⟩, ⟨.argument 1 .upper, ⟨1, 5⟩⟩]⟩
    compile p = .ok t ∧ compile q = .ok v ∧ ¬Pattern.Straddles p.toList q.toList ∧
      (∃ u, compile (p ++ q) = .ok u ∧
        Element.Joined t.elements (v.elements.map (.shift 7)) u.elements ∧
        u.elements = [⟨.argument 0 .keep, ⟨0, 3⟩⟩, ⟨.text " ü\x7d\x7b", ⟨3, 8⟩⟩,
          ⟨.argument 1 .upper, ⟨8, 12⟩⟩] ∧
        u.render ["a", "b"] (fun arg _ => arg) = .ok "a ü\x7d\x7bB" ∧
        u.render ["a"] (fun arg _ => arg) =
          .error ⟨.indexOutOfRange 1 1 (.template (p ++ q)), some ⟨8, 12⟩, none⟩) ∧
      Pattern.Denotes ['{', '0', '}'] 0 .keep ∧ ['{', '0', '}'] <:+ "\x7b0{0}".toList ∧
      ¬Pattern.Straddles "\x7b0{0}".toList "s\x7d".toList := by
  intro p q t v
  have hp : compile p = .ok t := by decide +kernel
  have hq : compile q = .ok v := by decide +kernel
  have h : ¬Pattern.Straddles p.toList q.toList := fun across => across.no_brace.1 (by decide)
  have zero : Pattern.Denotes ['{', '0', '}'] 0 .keep :=
    @Pattern.Denotes.bare ['0'] (by simp) (by simp)
  have ends : ['{', '0', '}'] <:+ "\x7b0{0}".toList := by decide
  obtain ⟨whole, -⟩ := compile_append p q
  obtain ⟨-, border⟩ := compile_append "\x7b0{0}" "s\x7d"
  obtain ⟨u, hu, joined, rendered⟩ := whole t v hp hq h
  have compiled : compile (p ++ q) = .ok ⟨p ++ q, [⟨.argument 0 .keep, ⟨0, 3⟩⟩,
      ⟨.text " ü\x7d\x7b", ⟨3, 8⟩⟩, ⟨.argument 1 .upper, ⟨8, 12⟩⟩]⟩ := by decide +kernel
  obtain rfl := Except.ok.inj (hu.symm.trans compiled)
  refine ⟨hp, hq, h, ⟨_, hu, joined, rfl, ?_, ?_⟩, zero, ends, border _ _ _ zero (.inl ends)⟩
  · rw [rendered]
    decide +kernel
  · rw [rendered]
    decide +kernel

end Template

end QueryDialect
