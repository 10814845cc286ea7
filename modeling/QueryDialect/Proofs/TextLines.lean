import Mathlib.Data.List.DropRight
import QueryDialect.Proofs.TemplateElements

/-!
# Lines of a text

There are two ways to count lines: by the line feeds before a place, as positions do, and by cutting
the text at its line feeds, less the carriage returns before them. They agree wherever something is
written on a line.
-/
namespace QueryDialect.Text

/-- A line without the carriage return at its end. -/
def dropReturn (line : List Char) : List Char :=
  if line.getLast? = some '\r' then line.dropLast else line

lemma dropReturn_append_return (line : List Char) : dropReturn (line ++ ['\r']) = line := by
  simp [dropReturn]

lemma dropReturn_of_getLast? {line : List Char} (h : line.getLast? ≠ some '\r') :
    dropReturn line = line := if_neg h

lemma dropReturn_cons {c : Char} {line : List Char} (h : line ≠ []) :
    dropReturn (c :: line) = c :: dropReturn line := by
  obtain ⟨d, rest, rfl⟩ := List.exists_cons_of_ne_nil h
  by_cases last : (d :: rest).getLast? = some '\r'
  · simp [dropReturn, last, List.getLast?_cons_cons]
  · simp [dropReturn, last, List.getLast?_cons_cons]

/-- The lines, from what stands between the line feeds. The last part has no line feed behind it,
and is no line if it is empty. -/
def linesOfParts : List (List Char) → List (List Char)
  | [] => []
  | [last] => if last = [] then [] else [last]
  | part :: rest => dropReturn part :: linesOfParts rest

lemma linesOfParts_cons {rest : List (List Char)} (h : rest ≠ []) (part : List Char) :
    linesOfParts (part :: rest) = dropReturn part :: linesOfParts rest := by
  obtain ⟨next, rest, rfl⟩ := List.exists_cons_of_ne_nil h
  rw [linesOfParts]
  exact List.cons_ne_nil _ _

lemma exists_feed_of_splitOn_eq {s next : List Char} {more : List (List Char)}
    (h : s.splitOn '\n' = [] :: next :: more) : ∃ rest, s = '\n' :: rest := by
  cases s with
  | nil => simp at h
  | cons c rest =>
    by_cases feed : c = '\n'
    · exact ⟨rest, by rw [feed]⟩
    · obtain ⟨part, parts, split⟩ := List.exists_cons_of_ne_nil (List.splitOn_ne_nil '\n' rest)
      simp [List.splitOn_cons_eq_if_modifyHead, feed, split] at h

/-- Reading a text line by line comes to cutting it at its line feeds. -/
lemma lines_eq_linesOfParts (s : List Char) : lines s = linesOfParts (s.splitOn '\n') := by
  fun_induction lines s with
  | case1 => rfl
  | case2 rest ih =>
    rw [ih, List.splitOn_cons_eq_if_modifyHead, if_pos (by rfl),
      linesOfParts_cons (List.splitOn_ne_nil _ _)]
    rfl
  | case3 rest ih =>
    have parts : ('\r' :: '\n' :: rest).splitOn '\n' = ['\r'] :: rest.splitOn '\n' := by
      simp [List.splitOn_cons_eq_if_modifyHead]
    rw [ih, parts, linesOfParts_cons (List.splitOn_ne_nil _ _)]
    rfl
  | case4 c rest notFeed notReturn ih =>
    have other : c ≠ '\n' := by
      rintro rfl
      exact notFeed rfl
    rw [ih, List.splitOn_cons_eq_if_modifyHead, if_neg (by simpa using other)]
    cases parts : rest.splitOn '\n' with
    | nil => exact absurd parts (List.splitOn_ne_nil _ _)
    | cons part more =>
      rw [List.modifyHead_cons]
      cases more with
      | nil => by_cases empty : part = [] <;> simp [linesOfParts, pushFront, empty]
      | cons next more =>
        have some_more : next :: more ≠ [] := List.cons_ne_nil _ _
        rw [linesOfParts_cons some_more, linesOfParts_cons some_more, pushFront]
        by_cases empty : part = []
        · -- the text goes on with a line feed, so the character in front is no carriage return
          have ordinary : c ≠ '\r' := by
            rintro rfl
            obtain ⟨behind, feed⟩ := exists_feed_of_splitOn_eq (empty ▸ parts)
            exact notReturn behind rfl feed
          have last : [c].getLast? ≠ some '\r' := by simpa [List.getLast?_singleton] using ordinary
          rw [empty, dropReturn_of_getLast? last, dropReturn_of_getLast? (by simp)]
        · rw [dropReturn_cons empty]

lemma getElem?_linesOfParts {parts : List (List Char)} {i : Nat} {part line : List Char}
    (found : parts[i]? = some part)
    (cut : (if i + 1 < parts.length then dropReturn part else part) = line) (written : line ≠ []) :
    (linesOfParts parts)[i]? = some line := by
  induction parts generalizing i with
  | nil => cases found
  | cons first rest ih =>
    cases rest with
    | nil =>
      cases i with
      | zero =>
        cases found
        rw [if_neg (by simp)] at cut
        subst cut
        rw [linesOfParts, if_neg written]
        rfl
      | succ i => cases found
    | cons next rest =>
      rw [linesOfParts_cons (List.cons_ne_nil _ _)]
      cases i with
      | zero =>
        cases found
        subst cut
        simp
      | succ i =>
        rw [List.getElem?_cons_succ] at found ⊢
        exact ih found (by simpa using cut)

/-- The position behind some characters: one line for each line feed among them, and one column for
each character behind the last of these. -/
lemma foldl_advance (cs : List Char) :
    cs.foldl Position.advance .first =
      ⟨cs.count '\n' + 1, (cs.rtakeWhile (· != '\n')).length + 1⟩ := by
  induction cs using List.reverseRecOn with
  | nil => rfl
  | append_singleton cs c ih =>
    rw [List.foldl_append, ih, List.foldl_cons, List.foldl_nil, Position.advance]
    by_cases feed : c = '\n'
    · simp [feed]
    · simp [feed]

lemma ofOffset_byteSize {source : String} {before after : List Char}
    (h : source.toList = before ++ after) : Position.ofOffset source (byteSize before) =
      ⟨before.count '\n' + 1, (before.rtakeWhile (· != '\n')).length + 1⟩ := by
  rw [Position.ofOffset, h, takeBytes_byteSize_append, foldl_advance]

/-- What can stand behind a line: nothing at the end of the text, or a line feed with or without a
carriage return before it. -/
inductive EndsLine (line : List Char) : List Char → Prop
  | atEnd : EndsLine line []
  | feed (rest : List Char) (bare : line.getLast? ≠ some '\r') : EndsLine line ('\n' :: rest)
  | returnFeed (rest : List Char) : EndsLine line ('\r' :: '\n' :: rest)

/-- Where a span lies that holds some text of one line, before the end of that line. The `front` and
the `back` are the other parts of the line. -/
structure Place (source : String) (span : Span) where
  above : List Char
  front : List Char
  held : List Char
  back : List Char
  below : List Char
  source_eq : source.toList = above ++ (front ++ (held ++ back) ++ below)
  span_eq : span = ⟨byteSize (above ++ front), byteSize (above ++ front) + byteSize held⟩
  held_ne_nil : held ≠ []
  above_ends : ∀ c ∈ above.getLast?, c = '\n'
  feed_not_mem : '\n' ∉ front ++ (held ++ back)
  ends : EndsLine (front ++ (held ++ back)) below

/-- The part of a line behind a text that holds no line feed, and what ends the line. -/
lemma exists_endsLine (s after : List Char)
    (whole : after.head? = some '\n' → s.getLast? ≠ some '\r') :
    ∃ back below, after = back ++ below ∧ '\n' ∉ back ∧ EndsLine (s ++ back) below := by
  have parts := List.takeWhile_append_dropWhile (p := (· != '\n')) (l := after)
  have feedless : '\n' ∉ after.takeWhile (· != '\n') := fun mem => by
    simpa using List.mem_takeWhile_imp mem
  cases behind : after.dropWhile (· != '\n') with
  | nil =>
    exact ⟨after.takeWhile (· != '\n'), [], by rw [← behind, parts], feedless, .atEnd⟩
  | cons c rest =>
    have feed : c = '\n' := by simpa [behind] using List.head?_dropWhile_not (· != '\n') after
    subst feed
    rw [behind] at parts
    rcases (after.takeWhile (· != '\n')).eq_nil_or_concat with empty | ⟨back, d, shape⟩
    · rw [empty] at parts
      refine ⟨[], '\n' :: rest, parts.symm, by simp, .feed rest ?_⟩
      rw [List.append_nil]
      exact whole (by rw [← parts]; rfl)
    · rw [List.concat_eq_append] at shape
      rw [shape] at parts feedless
      by_cases returns : d = '\r'
      · subst returns
        refine ⟨back, '\r' :: '\n' :: rest, ?_, by simp_all, .returnFeed rest⟩
        rw [← parts, List.append_assoc, List.singleton_append]
      · refine ⟨back ++ [d], '\n' :: rest, parts.symm, feedless, .feed rest ?_⟩
        simpa [← List.append_assoc] using returns

/-- The line of a text that holds no line feed is told apart, unless the text ends between the two
characters of a line end. -/
lemma exists_place {source : String} {span : Span} {before held after : List Char}
    (hsource : source.toList = before ++ (held ++ after))
    (hspan : span = ⟨byteSize before, byteSize before + byteSize held⟩) (hheld : held ≠ [])
    (feedless : '\n' ∉ held) (whole : after.head? = some '\n' → held.getLast? ≠ some '\r') :
    ∃ p : Place source span, p.held = held := by
  have parts : before.rdropWhile (· != '\n') ++ before.rtakeWhile (· != '\n') = before :=
    List.rdropWhile_append_rtakeWhile
  have front_feedless : '\n' ∉ before.rtakeWhile (· != '\n') := fun mem => by
    simpa using List.mem_rtakeWhile_imp mem
  have last (front : List Char) : (front ++ held).getLast? = held.getLast? := by
    rw [List.getLast?_append_of_ne_nil _ hheld]
  obtain ⟨back, below, rfl, back_feedless, ends⟩ := exists_endsLine
    (before.rtakeWhile (· != '\n') ++ held) after (by rwa [last])
  refine ⟨⟨before.rdropWhile (· != '\n'), before.rtakeWhile (· != '\n'), held, back, below, ?_, ?_,
    hheld, ?_, ?_, by rwa [← List.append_assoc]⟩, rfl⟩
  · rw [hsource]
    conv_lhs => rw [← parts]
    simp only [List.append_assoc]
  · rw [hspan, parts]
  · intro c mem
    obtain ⟨left, shape⟩ := List.getLast?_eq_some_iff.1 mem
    have last := List.rdropWhile_last_not (· != '\n') before (by simp [shape])
    simpa [shape] using last
  · simp [front_feedless, feedless, back_feedless]

lemma length_splitOn (s : List Char) : (s.splitOn '\n').length = s.count '\n' + 1 := by
  induction s with
  | nil => rfl
  | cons c s ih =>
    by_cases feed : c = '\n'
    · simp [List.splitOn_cons_eq_if_modifyHead, feed, ih]
    · simp [List.splitOn_cons_eq_if_modifyHead, feed, ih]

lemma getElem?_splitOn_append {above : List Char} (h : ∀ c ∈ above.getLast?, c = '\n')
    (s : List Char) :
    ((above ++ s).splitOn '\n')[above.count '\n']? = (s.splitOn '\n').head? := by
  rcases above.eq_nil_or_concat with rfl | ⟨above, c, rfl⟩
  · simp [List.head?_eq_getElem?]
  · have feed : c = '\n' := h c (by simp)
    subst feed
    have parts := length_splitOn above
    rw [List.concat_eq_append, List.append_assoc, List.singleton_append,
      List.splitOn_append_cons_self, List.count_append, List.count_singleton_self, ← parts,
      List.getElem?_append_right le_rfl, Nat.sub_self, List.head?_eq_getElem?]

lemma length_splitOn_append (above s : List Char) : ((above ++ s).splitOn '\n').length =
    above.count '\n' + (s.splitOn '\n').length := by
  simp only [length_splitOn, List.count_append]
  omega

lemma EndsLine.exists_part {line below : List Char} (h : EndsLine line below)
    (feedless : '\n' ∉ line) : ∃ part, ((line ++ below).splitOn '\n').head? = some part ∧
      (if 1 < ((line ++ below).splitOn '\n').length then dropReturn part else part) = line := by
  cases h with
  | atEnd =>
    rw [List.append_nil, List.splitOn_eq_singleton feedless]
    exact ⟨line, rfl, if_neg (by simp)⟩
  | feed rest bare =>
    rw [List.splitOn_append_cons_self, List.splitOn_eq_singleton feedless]
    refine ⟨line, rfl, ?_⟩
    rw [dropReturn_of_getLast? bare, ite_self]
  | returnFeed rest =>
    have feedless' : '\n' ∉ line ++ ['\r'] := by simpa using feedless
    rw [List.append_cons, List.splitOn_append_cons_self, List.splitOn_eq_singleton feedless']
    refine ⟨line ++ ['\r'], rfl, ?_⟩
    rw [if_pos, dropReturn_append_return]
    simp [List.length_pos_iff, List.splitOn_ne_nil]

lemma rtakeWhile_append {above front : List Char} (h : ∀ c ∈ above.getLast?, c = '\n')
    (feedless : '\n' ∉ front) : (above ++ front).rtakeWhile (· != '\n') = front := by
  induction front using List.reverseRecOn with
  | nil =>
    rw [List.append_nil, List.rtakeWhile_eq_nil_iff]
    intro some_left
    simpa using h _ (List.getLast?_eq_some_getLast some_left)
  | append_singleton front c ih =>
    have other : c ≠ '\n' := by
      rintro rfl
      exact feedless (by simp)
    rw [← List.append_assoc, List.rtakeWhile_concat_pos _ _ _ (by simpa using other),
      ih fun mem => feedless (List.mem_append_left _ mem)]

namespace Place

variable {source : String} {span : Span} (p : Place source span)

def line : List Char := p.front ++ (p.held ++ p.back)

lemma line_ne_nil : p.line ≠ [] := by simp [line, p.held_ne_nil]

lemma position_eq : Position.ofOffset source span.start =
    ⟨p.above.count '\n' + 1, p.front.length + 1⟩ := by
  have hsource : source.toList = (p.above ++ p.front) ++ (p.held ++ (p.back ++ p.below)) := by
    rw [p.source_eq]
    simp only [List.append_assoc]
  have hstart : span.start = byteSize (p.above ++ p.front) := congrArg Span.start p.span_eq
  have feedless : '\n' ∉ p.front := fun mem => p.feed_not_mem (List.mem_append_left _ mem)
  rw [hstart, ofOffset_byteSize hsource, rtakeWhile_append p.above_ends feedless, List.count_append,
    List.count_eq_zero_of_not_mem feedless, Nat.add_zero]

/-- What stands between two line feeds is the line, perhaps with a carriage return at its end. -/
lemma exists_part : ∃ part, (source.toList.splitOn '\n')[p.above.count '\n']? = some part ∧
    (if p.above.count '\n' + 1 < (source.toList.splitOn '\n').length then dropReturn part
      else part) = p.line := by
  rw [p.source_eq, line, length_splitOn_append, getElem?_splitOn_append p.above_ends]
  obtain ⟨part, first, cut⟩ := EndsLine.exists_part p.ends p.feed_not_mem
  exact ⟨part, first, by simpa only [Nat.add_lt_add_iff_left] using cut⟩

lemma getElem?_lines : (lines source.toList)[p.above.count '\n']? = some p.line := by
  obtain ⟨part, found, cut⟩ := p.exists_part
  rw [lines_eq_linesOfParts]
  exact getElem?_linesOfParts found cut p.line_ne_nil

lemma lineAt_eq : lineAt source (p.above.count '\n' + 1) = .ofList p.line := by
  rw [lineAt, Nat.add_sub_cancel, p.getElem?_lines, Option.getD_some]

end Place

end QueryDialect.Text
