import QueryDialect.Proofs.TextLines

/-!
# Positions and offsets

The position of an offset is described by the characters that start before it. Positions grow with
the offset from one character boundary to the next, so each names one boundary. Offsets inside a
character and beyond the end are taken to the boundary behind them and to the end.
-/
namespace QueryDialect.Text

/-- Each character with the byte offset at which it starts. -/
def charStarts : Nat → List Char → List (Nat × Char)
  | _, [] => []
  | start, c :: cs => (start, c) :: charStarts (start + c.utf8Size) cs

/-- The characters of a text that start before an offset. -/
def startingBefore (source : String) (offset : Nat) : List Char :=
  ((charStarts 0 source.toList).filter fun (start, _) => start < offset).map Prod.snd

lemma takeBytes_zero (cs : List Char) : takeBytes 0 cs = [] := by rw [takeBytes]

lemma filter_charStarts (start offset : Nat) (cs : List Char) :
    ((charStarts start cs).filter fun (start, _) => start < offset).map Prod.snd =
      takeBytes (offset - start) cs := by
  induction cs generalizing start with
  | nil => cases offset - start <;> rfl
  | cons c cs ih =>
    have step := ih (start + c.utf8Size)
    rw [← Nat.sub_sub] at step
    rw [charStarts]
    cases room : offset - start with
    | zero =>
      rw [room, Nat.zero_sub] at step
      rw [List.filter_cons_of_neg (by simpa using Nat.sub_eq_zero_iff_le.1 room), step,
        takeBytes_zero, takeBytes_zero]
    | succ n =>
      rw [room] at step
      rw [List.filter_cons_of_pos (by simp; omega), List.map_cons, step, takeBytes]

lemma startingBefore_eq (source : String) (offset : Nat) :
    startingBefore source offset = takeBytes offset source.toList :=
  filter_charStarts 0 offset source.toList

lemma takeBytes_byteSize_add_append (before rest : List Char) (n : Nat) :
    takeBytes (byteSize before + n) (before ++ rest) = before ++ takeBytes n rest := by
  induction before with
  | nil => rw [byteSize_nil, Nat.zero_add, List.nil_append, List.nil_append]
  | cons c before ih =>
    have positive := c.utf8Size_pos
    obtain ⟨m, hm⟩ : ∃ m, byteSize (c :: before) + n = m + 1 :=
      Nat.exists_eq_add_one_of_ne_zero (by rw [byteSize_cons]; omega)
    have rest_size : m + 1 - c.utf8Size = byteSize before + n := by
      rw [byteSize_cons] at hm
      omega
    rw [hm, List.cons_append, takeBytes, rest_size, ih, List.cons_append]

lemma takeBytes_of_le {cs : List Char} {n : Nat} (h : byteSize cs ≤ n) : takeBytes n cs = cs := by
  obtain ⟨m, rfl⟩ := Nat.exists_eq_add_of_le h
  have whole := takeBytes_byteSize_add_append cs [] m
  have nothing : takeBytes m [] = [] := by cases m <;> rfl
  rwa [nothing, List.append_nil] at whole

/-- A character is taken whole as soon as one of its bytes is. -/
lemma takeBytes_cons_of_le {c : Char} {n : Nat} (positive : 0 < n) (h : n ≤ c.utf8Size)
    (cs : List Char) : takeBytes n (c :: cs) = [c] := by
  obtain ⟨m, rfl⟩ := Nat.exists_eq_add_one_of_ne_zero positive.ne'
  rw [takeBytes, Nat.sub_eq_zero_of_le h, takeBytes_zero]

lemma isValid_iff {source : String} {offset : Nat} :
    String.Pos.Raw.IsValid source ⟨offset⟩ ↔
      ∃ before after, source.toList = before ++ after ∧ offset = byteSize before := by
  constructor
  · intro valid
    obtain ⟨before, after, rfl, size⟩ := String.Pos.Raw.isValid_iff_exists_append.1 valid
    refine ⟨before.toList, after.toList, String.toList_append, ?_⟩
    rw [byteSize_toList]
    exact congrArg String.Pos.Raw.byteIdx size
  · rintro ⟨before, after, hsource, rfl⟩
    exact Span.isValid_byteSize hsource

/-- The smaller of two boundaries cuts off a part of what the greater one does. -/
lemma exists_between {source : String} {i j : Nat} (hi : String.Pos.Raw.IsValid source ⟨i⟩)
    (hj : String.Pos.Raw.IsValid source ⟨j⟩) (h : i < j) :
    ∃ c more, takeBytes j source.toList = takeBytes i source.toList ++ c :: more := by
  obtain ⟨before, after, first, rfl⟩ := isValid_iff.1 hi
  obtain ⟨before', after', second, rfl⟩ := isValid_iff.1 hj
  have both : before ++ after = before' ++ after' := first.symm.trans second
  rw [first, takeBytes_byteSize_append, ← first, second, takeBytes_byteSize_append]
  rcases List.append_eq_append_iff.1 both with ⟨more, rfl, -⟩ | ⟨less, rfl, -⟩
  · cases more with
    | nil => rw [List.append_nil] at h; exact absurd h (Nat.lt_irrefl _)
    | cons c more => exact ⟨c, more, rfl⟩
  · rw [byteSize_append] at h
    omega

namespace Position

/-- Earlier lines come first, and on one line the earlier columns. -/
def Before (p q : Position) : Prop := p.line < q.line ∨ p.line = q.line ∧ p.column < q.column

variable {p q o : Position}

lemma Before.trans (hpq : p.Before q) (hqo : q.Before o) : p.Before o := by
  unfold Before at *
  omega

lemma Before.ne (h : p.Before q) : p ≠ q := by
  rintro rfl
  unfold Before at h
  omega

lemma before_advance (p : Position) (c : Char) : p.Before (p.advance c) := by
  rw [advance]
  split_ifs
  · exact .inl (Nat.lt_succ_self _)
  · exact .inr ⟨rfl, Nat.lt_succ_self _⟩

/-- Each character read moves the position on. -/
lemma before_foldl_advance (p : Position) (c : Char) (cs : List Char) :
    p.Before ((c :: cs).foldl advance p) := by
  induction cs generalizing p c with
  | nil => exact p.before_advance c
  | cons d cs ih => exact (p.before_advance c).trans (ih (p.advance c) d)

variable {source : String}

lemma ofOffset_eq (source : String) (offset : Nat) : ofOffset source offset =
    ⟨1 + (startingBefore source offset).count '\n',
      1 + ((startingBefore source offset).rtakeWhile (· != '\n')).length⟩ := by
  rw [ofOffset, ← startingBefore_eq, foldl_advance, Nat.add_comm 1, Nat.add_comm 1]

lemma ofOffset_before {i j : Nat} (hi : String.Pos.Raw.IsValid source ⟨i⟩)
    (hj : String.Pos.Raw.IsValid source ⟨j⟩) (h : i < j) :
    (ofOffset source i).Before (ofOffset source j) := by
  obtain ⟨c, more, taken⟩ := exists_between hi hj h
  rw [ofOffset, ofOffset, taken, List.foldl_append]
  exact before_foldl_advance _ c more

lemma ofOffset_inside {before after : List Char} {c : Char} {offset : Nat}
    (hsource : source.toList = before ++ c :: after) (behind : byteSize before < offset)
    (inside : offset ≤ byteSize before + c.utf8Size) :
    ofOffset source offset = ofOffset source (byteSize before + c.utf8Size) := by
  obtain ⟨n, rfl⟩ := Nat.exists_eq_add_of_lt behind
  rw [ofOffset, ofOffset, hsource, Nat.add_assoc, takeBytes_byteSize_add_append,
    takeBytes_byteSize_add_append, takeBytes_cons_of_le (Nat.succ_pos n) (by omega),
    takeBytes_cons_of_le c.utf8Size_pos le_rfl]

lemma ofOffset_past {offset : Nat} (h : source.utf8ByteSize ≤ offset) :
    ofOffset source offset = ofOffset source source.utf8ByteSize := by
  rw [← byteSize_toList] at h ⊢
  rw [ofOffset, ofOffset, takeBytes_of_le h, takeBytes_of_le le_rfl]

/-- The position of an offset: the line counts the line feeds among the characters that start before
the offset, and the column counts the characters behind the last of them, both from one. From
boundary to boundary the position strictly grows, so that it belongs to one boundary only. An offset
inside a character has the position of the boundary behind the character, and one beyond the end
that of the end. -/
theorem ofOffset_determines (source : String) :
    (∀ offset, ofOffset source offset =
      ⟨1 + (startingBefore source offset).count '\n',
        1 + ((startingBefore source offset).rtakeWhile (· != '\n')).length⟩) ∧
    (∀ i j, String.Pos.Raw.IsValid source ⟨i⟩ → String.Pos.Raw.IsValid source ⟨j⟩ →
      (i < j → (ofOffset source i).Before (ofOffset source j)) ∧
      (ofOffset source i = ofOffset source j → i = j)) ∧
    (∀ before c after offset, source.toList = before ++ c :: after → byteSize before < offset →
      offset < byteSize before + c.utf8Size →
      ofOffset source offset = ofOffset source (byteSize before + c.utf8Size)) ∧
    ∀ offset, source.utf8ByteSize < offset →
      ofOffset source offset = ofOffset source source.utf8ByteSize := by
  refine ⟨ofOffset_eq source, fun i j hi hj => ⟨ofOffset_before hi hj, fun same => ?_⟩,
    fun before c after offset hsource behind inside => ofOffset_inside hsource behind inside.le,
    fun offset past => ofOffset_past past.le⟩
  rcases Nat.lt_trichotomy i j with less | equal | greater
  · exact absurd same (ofOffset_before hi hj less).ne
  · exact equal
  · exact absurd same.symm (ofOffset_before hj hi greater).ne

/-- A line feed, a character of three bytes in the second line and one of four at the end. -/
theorem ofOffset_determines_wide :
    let source := "a\n€x\r\n😀"
    startingBefore source 4 = ['a', '\n', '€'] ∧
      ofOffset source 3 = ofOffset source 5 ∧ ofOffset source 5 = ⟨2, 2⟩ ∧
      (ofOffset source 2).Before (ofOffset source 5) ∧
      (ofOffset source 7).Before (ofOffset source 8) ∧
      ofOffset source 99 = ofOffset source 12 ∧ ofOffset source 12 ≠ ofOffset source 8 := by
  intro source
  obtain ⟨position, boundaries, inside, past⟩ := ofOffset_determines source
  have valid (offset count : Nat) (h : offset = byteSize (source.toList.take count)) :
      String.Pos.Raw.IsValid source ⟨offset⟩ :=
    isValid_iff.2 ⟨_, source.toList.drop count, (List.take_append_drop _ _).symm, h⟩
  have start := valid 2 2 (by decide)
  have behind := valid 5 3 (by decide)
  have feed := valid 7 5 (by decide)
  have last := valid 8 6 (by decide)
  have stop := valid 12 7 (by decide)
  refine ⟨by decide, inside ['a', '\n'] '€' ['x', '\r', '\n', '😀'] 3 (by decide) (by decide)
    (by decide), (position 5).trans (by decide), (boundaries 2 5 start behind).1 (by decide),
    (boundaries 7 8 feed last).1 (by decide), past 99 (by decide), fun same => ?_⟩
  exact absurd ((boundaries 12 8 stop last).2 same) (by decide)

end Position

end QueryDialect.Text
