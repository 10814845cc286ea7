import QueryDialect.Proofs.IndexOverflow
import QueryDialect.Proofs.TextLines

/-!
# Reports of pattern errors

The report of a pattern error names a line and a column and shows the line with carets below it. For
an error of compilation these are the line and the column of the placeholder at fault. The carets
stand below the text they are meant for as long as the number of the line has three digits at most
and they are as many as the characters above them.
-/
namespace QueryDialect

open Text

namespace Text

lemma length_le_byteSize (cs : List Char) : cs.length ≤ byteSize cs := by
  induction cs with
  | nil => exact le_rfl
  | cons c cs ih =>
    have positive := c.utf8Size_pos
    rw [List.length_cons, byteSize_cons]
    omega

/-- Bytes and characters count the same only if each character takes up one byte. -/
lemma byteSize_eq_length_iff {cs : List Char} :
    byteSize cs = cs.length ↔ ∀ c ∈ cs, c.utf8Size = 1 := by
  induction cs with
  | nil => simp
  | cons c cs ih =>
    have positive := c.utf8Size_pos
    have rest := length_le_byteSize cs
    rw [List.length_cons, byteSize_cons, List.forall_mem_cons, ← ih]
    omega

lemma Place.cuts {source : String} {span : Span} (p : Place source span) :
    span.Cuts source p.held := by
  refine ⟨p.above ++ p.front, p.back ++ p.below, ?_, p.span_eq⟩
  rw [p.source_eq]
  simp only [List.append_assoc]

lemma Place.held_eq {source : String} {span : Span} {written : List Char} (p : Place source span)
    (h : span.Cuts source written) : p.held = written :=
  String.ofList_injective (p.cuts.slice_eq.symm.trans h.slice_eq)

end Text

namespace PatternError

lemma toList_lineLabel (n : Nat) : (lineLabel n).toList =
    List.replicate (3 - (Nat.toDigits 10 n).length) ' ' ++ Nat.toDigits 10 n := by
  simp [lineLabel, Nat.repr_eq_ofList_toDigits]

lemma three_le_length_lineLabel (n : Nat) : 3 ≤ (lineLabel n).toList.length := by
  rw [toList_lineLabel, List.length_append, List.length_replicate]
  omega

/-- A number of more than three digits takes up more room. -/
lemma length_lineLabel_eq_iff {n : Nat} : (lineLabel n).toList.length = 3 ↔ n < 1000 := by
  have digits := Nat.length_toDigits_le_iff (b := 10) (n := n) (k := 3) (by omega) (by omega)
  rw [toList_lineLabel, List.length_append, List.length_replicate]
  omega

lemma feed_not_mem_lineLabel (n : Nat) : '\n' ∉ (lineLabel n).toList := by
  rw [toList_lineLabel, List.mem_append]
  rintro (blank | digit)
  · exact absurd (List.eq_of_mem_replicate blank) (by decide)
  · exact absurd (Nat.isDigit_of_mem_toDigits (by omega) (by omega) digit) (by decide)

variable (e : PatternError)

lemma report_eq : e.report = "Error: " ++ e.fault.describe ++ "\n --> " ++
    toString e.position.line ++ ":" ++ toString e.position.column ++ "\n  |\n" ++
    lineLabel e.position.line ++ " | " ++ e.sourceLine ++ "\n    | " ++ e.pointer := by
  have rows : e.report = "\n".intercalate ["Error: " ++ e.fault.describe,
      " --> " ++ toString e.position.line ++ ":" ++ toString e.position.column, "  |",
      lineLabel e.position.line ++ " | " ++ e.sourceLine, "    | " ++ e.pointer] := rfl
  rw [rows]
  apply String.toList_injective
  simp

/-- The text of the report up to the row that shows the line. -/
def heading : List Char := ("Error: " ++ e.fault.describe ++ "\n --> " ++
  toString e.position.line ++ ":" ++ toString e.position.column ++ "\n  |").toList

/-- What stands in front of the line in its row. -/
def gutter : List Char := (lineLabel e.position.line ++ " | ").toList

lemma toList_report : e.report.toList = e.heading ++ '\n' :: (e.gutter ++ e.sourceLine.toList ++
    '\n' :: ([' ', ' ', ' ', ' ', '|', ' '] ++ e.pointer.toList)) := by
  rw [report_eq, heading, gutter]
  simp

variable {e} (place : Place e.pattern e.span)

lemma position_eq : e.position = ⟨place.above.count '\n' + 1, place.front.length + 1⟩ :=
  place.position_eq

lemma sourceLine_eq : e.sourceLine = .ofList place.line := by
  rw [sourceLine, position_eq place]
  exact place.lineAt_eq

lemma length_span : e.span.length = byteSize place.held :=
  (congrArg Span.length place.span_eq).trans (Nat.add_sub_cancel_left _ _)

lemma toList_pointer : e.pointer.toList =
    List.replicate place.front.length ' ' ++ List.replicate (byteSize place.held) '^' := by
  have positive := byteSize_pos place.held_ne_nil
  rw [pointer, position_eq place, length_span place, Nat.max_eq_left positive]
  simp

/-- The row with the carets. -/
def carets : List Char := [' ', ' ', ' ', ' ', '|', ' '] ++
  (List.replicate place.front.length ' ' ++ List.replicate (byteSize place.held) '^')

lemma splitOn_report : e.report.toList.splitOn '\n' =
    e.heading.splitOn '\n' ++ [e.gutter ++ place.line, carets place] := by
  have upper : '\n' ∉ e.gutter ++ place.line := by
    have label := feed_not_mem_lineLabel e.position.line
    have line : '\n' ∉ place.line := place.feed_not_mem
    simp [gutter, label, line]
  have lower : '\n' ∉ carets place := by simp [carets]
  rw [toList_report, sourceLine_eq place, toList_pointer place, ← carets, String.toList_ofList,
    List.splitOn_append_cons_self, List.splitOn_append_cons_self,
    List.splitOn_eq_singleton upper, List.splitOn_eq_singleton lower]
  rfl

lemma getElem?_append_replicate {front : List Char} {c : Char} (other : c ∉ front) (n i : Nat) :
    (front ++ List.replicate n c)[i]? = some c ↔ front.length ≤ i ∧ i < front.length + n := by
  by_cases early : i < front.length
  · rw [List.getElem?_append_left early]
    have differs : front[i]? ≠ some c := fun same => other (List.mem_of_getElem? same)
    simp only [differs, false_iff]
    omega
  · rw [List.getElem?_append_right (by omega), List.getElem?_replicate]
    simp only [Option.ite_none_right_eq_some, and_true]
    omega

lemma getElem?_carets (column : Nat) : (carets place)[column]? = some '^' ↔
    6 + place.front.length ≤ column ∧ column < 6 + place.front.length + byteSize place.held := by
  have blank : '^' ∉ [' ', ' ', ' ', ' ', '|', ' '] ++ List.replicate place.front.length ' ' := by
    simp
  have row := getElem?_append_replicate blank (byteSize place.held) column
  rw [List.append_assoc, ← carets, List.length_append, List.length_replicate] at row
  exact row

/-- In the last two rows of the report, the carets stand below the characters of the line that the
span holds, and below nothing else in the row of the line. -/
def CaretsUnder (e : PatternError) (place : Place e.pattern e.span) : Prop :=
  ∃ rows lead lower, e.report.toList.splitOn '\n' = rows ++ [lead ++ place.line, lower] ∧
    ∀ column, (column < (lead ++ place.line).length ∧ lower[column]? = some '^') ↔
      lead.length + place.front.length ≤ column ∧
        column < lead.length + place.front.length + place.held.length

lemma caretsUnder_iff_columns : CaretsUnder e place ↔
    ∀ column, (column < (e.gutter ++ place.line).length ∧ (carets place)[column]? = some '^') ↔
      e.gutter.length + place.front.length ≤ column ∧
        column < e.gutter.length + place.front.length + place.held.length := by
  rw [CaretsUnder, splitOn_report]
  constructor
  · rintro ⟨rows, lead, lower, same, columns⟩
    have two : [e.gutter ++ place.line, carets place].length = [lead ++ place.line, lower].length :=
      by simp only [List.length_cons]
    have last := List.append_inj_right' same two
    rw [List.cons.injEq, List.cons.injEq] at last
    obtain ⟨upper, lower_eq, -⟩ := last
    have lead_eq := List.append_cancel_right upper
    rw [lower_eq, lead_eq]
    exact columns
  · intro columns
    exact ⟨_, _, _, rfl, columns⟩

/-- Two runs of columns, one cut off at the end of the row, are the same. -/
lemma columns_agree_iff {lead front held carets back : Nat} (hlead : 6 ≤ lead) (hheld : 0 < held)
    (hcarets : held ≤ carets) :
    (∀ column, (column < lead + (front + (held + back)) ∧
        6 + front ≤ column ∧ column < 6 + front + carets) ↔
      lead + front ≤ column ∧ column < lead + front + held) ↔
    lead = 6 ∧ (carets = held ∨ back = 0) := by
  constructor
  · intro columns
    have first := columns (6 + front)
    have behind := columns (lead + front + held)
    omega
  · rintro ⟨rfl, exact_or_last⟩ column
    omega

lemma caretsUnder_iff : CaretsUnder e place ↔
    place.above.count '\n' < 999 ∧ ((∀ c ∈ place.held, c.utf8Size = 1) ∨ place.back = []) := by
  have label := three_le_length_lineLabel e.position.line
  have lead : e.gutter.length = (lineLabel e.position.line).toList.length + 3 := by simp [gutter]
  have narrow := length_lineLabel_eq_iff (n := e.position.line)
  have line : e.position.line = place.above.count '\n' + 1 := by rw [position_eq place]
  have written := List.length_pos_iff.2 place.held_ne_nil
  rw [caretsUnder_iff_columns]
  simp only [getElem?_carets, List.length_append, Place.line]
  rw [columns_agree_iff (by omega) written (length_le_byteSize _), byteSize_eq_length_iff,
    List.length_eq_zero_iff]
  exact and_congr_left fun _ => by omega

/-- A placeholder is written in characters of one byte, and no part of it ends a line. -/
lemma plain_of_overflows {digits closing : List Char} (hdigits : ∀ d ∈ digits, '0' ≤ d ∧ d ≤ '9')
    (hclosing : closing ∈ Pattern.closings) :
    (∀ c ∈ '{' :: (digits ++ closing), c.utf8Size = 1) ∧ '\n' ∉ '{' :: (digits ++ closing) ∧
      ('{' :: (digits ++ closing)).getLast? = some '}' := by
  have short : ∀ closing ∈ Pattern.closings, byteSize closing = closing.length ∧
      '\n' ∉ closing ∧ closing.getLast? = some '}' := by decide
  obtain ⟨bytes, feedless, last⟩ := short closing hclosing
  refine ⟨?_, ?_, ?_⟩
  · have nine : '9'.val ≤ 127 := by decide
    have digit_bytes : ∀ d ∈ digits, d.utf8Size = 1 := fun d mem =>
      Char.utf8Size_eq_one_iff.2 (UInt32.le_trans (hdigits d mem).2 nine)
    simp only [List.forall_mem_cons, List.forall_mem_append]
    exact ⟨rfl, digit_bytes, byteSize_eq_length_iff.1 bytes⟩
  · have no_digit : '\n' ∉ digits := fun mem => absurd (hdigits _ mem).1 (by decide)
    simp [no_digit, feedless]
  · rw [← List.cons_append, List.getLast?_append, last]
    rfl

variable {pattern : String}

/-- The placeholder at fault stands on one line of the pattern. -/
lemma exists_place_of_overflows {span : Span} {digits : List Char}
    (h : Pattern.Overflows pattern span digits) : ∃ place : Place pattern span,
      (∃ closing ∈ Pattern.closings, place.held = '{' :: (digits ++ closing)) := by
  obtain ⟨closing, mem, before, after, hpattern, hspan⟩ := h.written
  obtain ⟨-, feedless, last⟩ := plain_of_overflows h.decimal_digits mem
  obtain ⟨place, held⟩ := exists_place hpattern hspan (List.cons_ne_nil _ _) feedless
    (fun _ => by rw [last]; decide)
  exact ⟨place, closing, mem, held⟩

lemma utf8Size_of_overflows {span : Span} {digits : List Char}
    (h : Pattern.Overflows pattern span digits) (place : Place pattern span) :
    ∀ c ∈ place.held, c.utf8Size = 1 := by
  obtain ⟨closing, mem, cuts⟩ := h.written
  rw [place.held_eq cuts]
  exact (plain_of_overflows h.decimal_digits mem).1

/-- The report of a pattern that cannot be compiled names the line and the column of the placeholder
at fault. It shows that line, as it stands between two line feeds and without its carriage return,
and has one caret for each character of the placeholder behind as many blanks as there are
characters of the line before it. The line is always one of the pattern. -/
theorem report_of_compile_error {e : PatternError} (failed : Template.compile pattern = .error e) :
    ∃ (place : Place pattern e.span) (digits : List Char) (source : String),
      Pattern.Overflows pattern e.span digits ∧
      (∀ span other, Pattern.Overflows pattern span other →
        span = e.span ∨ e.span.stop ≤ span.start) ∧
      (∃ closing ∈ Pattern.closings, place.held = '{' :: (digits ++ closing)) ∧
      let line := place.above.count '\n' + 1
      let column := place.front.length + 1
      let parts := pattern.toList.splitOn '\n'
      e.report = "Error: " ++ e.fault.describe ++ "\n --> " ++ toString line ++ ":" ++
          toString column ++ "\n  |\n" ++ lineLabel line ++ " | " ++ source ++ "\n    | " ++
          String.ofList (List.replicate (column - 1) ' ' ++
            List.replicate place.held.length '^') ∧
      (∃ part, parts[line - 1]? = some part ∧
        source.toList = if line < parts.length then dropReturn part else part) ∧
      place.held <+: source.toList.drop (column - 1) ∧
      (lines pattern.toList)[line - 1]? = some source.toList := by
  obtain ⟨rfl, digits, overflows, first, -⟩ := Template.first_of_compile_eq_error failed
  obtain ⟨place, closing⟩ := exists_place_of_overflows overflows
  refine ⟨place, digits, .ofList place.line, overflows, first, closing, ?_, ?_, ?_, ?_⟩
  · have pointer : e.pointer = .ofList (List.replicate place.front.length ' ' ++
        List.replicate place.held.length '^') := by
      have bytes := byteSize_eq_length_iff.2 (utf8Size_of_overflows overflows place)
      rw [← bytes, ← toList_pointer place, String.ofList_toList]
    rw [report_eq, position_eq place, sourceLine_eq place, pointer]
    rfl
  · obtain ⟨part, found, cut⟩ := place.exists_part
    exact ⟨part, found, by rw [String.toList_ofList]; exact cut.symm⟩
  · rw [String.toList_ofList, Place.line, Nat.add_sub_cancel, List.drop_left]
    exact List.prefix_append _ _
  · rw [String.toList_ofList]
    exact place.getElem?_lines

/-- The number in the third line does not fit. A carriage return of its own and a character of two
bytes stand before it on the line, and a line end of two characters behind it. -/
theorem report_of_compile_error_third_line :
    let pattern := "{0}\r\né\n\ré {18446744073709551616u}\r\n"
    let e : PatternError := ⟨pattern, ⟨12, 35⟩, .indexTooLarge "18446744073709551616"⟩
    Template.compile pattern = .error e ∧ ∃ source : String,
      e.report = "Error: " ++ e.fault.describe ++ "\n --> " ++ toString 3 ++ ":" ++ toString 4 ++
        "\n  |\n" ++ lineLabel 3 ++ " | " ++ source ++ "\n    | " ++
        String.ofList (List.replicate 3 ' ' ++ List.replicate 23 '^') ∧
      (lines pattern.toList)[2]? = some source.toList ∧
      "{18446744073709551616u}".toList <+: source.toList.drop 3 := by
  intro pattern e
  have failed : Template.compile pattern = .error e := by decide +kernel
  obtain ⟨place, digits, source, -, -, -, report, -, begins, shown⟩ :=
    report_of_compile_error failed
  have here : Position.ofOffset pattern e.span.start = ⟨3, 4⟩ := by decide
  have position := place.position_eq.symm.trans here
  obtain ⟨line, column⟩ := Position.mk.inj position
  have held : place.held = "{18446744073709551616u}".toList :=
    place.held_eq ⟨"{0}\r\né\n\ré ".toList, "\r\n".toList, by decide, by decide⟩
  rw [line, column, held] at report
  rw [line] at shown
  rw [column, held] at begins
  exact ⟨failed, source, report, shown, begins⟩

/-- A number that does not fit is reported below any number of empty lines. -/
lemma compile_below_feeds {n : Nat} (some_feed : n ≠ 0) {p : Pattern.Placeholder}
    (hp : p.WellFormed) (overflow : ¬(Pattern.Piece.placeholder p).Fits) :
    let feeds := List.replicate n '\n'
    let pattern := String.ofList (feeds ++ p.chars)
    Template.compile pattern = .error ⟨pattern, ⟨byteSize feeds, byteSize feeds + byteSize p.chars⟩,
      .indexTooLarge (.ofList p.digits)⟩ := by
  intro feeds pattern
  have plain : ¬Pattern.HoldsPlaceholder feeds := by
    intro holds
    obtain ⟨before, q, after, -, same⟩ := Pattern.holdsPlaceholder_iff.1 holds
    have brace : '{' ∈ feeds := by simp [same, Pattern.Placeholder.chars]
    exact absurd (List.eq_of_mem_replicate brace) (by decide)
  have chars : [Pattern.Piece.placeholder p].flatMap Pattern.Piece.chars = p.chars :=
    List.append_nil _
  have alone : Pattern.pieces ([Pattern.Piece.placeholder p].flatMap Pattern.Piece.chars) =
      [.placeholder p] := by
    have read := Pattern.Placeholder.read?_chars_append hp []
    rw [List.append_nil] at read
    rw [chars, Pattern.pieces_of_read? read, Pattern.pieces_nil]
  have pieces : Pattern.pieces (feeds ++ p.chars) = [.text feeds, .placeholder p] := by
    have both := Pattern.pieces_text_append (by simpa [feeds] using some_feed) plain
      (by simp [Pattern.Piece.isText]) alone
    rwa [chars] at both
  have fits : ¬p.index < Template.indexLimit := overflow
  rw [Template.compile, String.toList_ofList, pieces]
  simp [Template.locate, Template.element, fits, Pattern.Piece.chars, bind, Except.bind]

lemma count_above {source : String} {span : Span} (place : Place source span)
    {before after : List Char} (h : source.toList = before ++ after)
    (hstart : span.start = byteSize before) : place.above.count '\n' = before.count '\n' := by
  have position := place.position_eq
  rw [hstart, ofOffset_byteSize h] at position
  exact (Nat.succ.inj (Position.mk.inj position).1).symm

lemma carets_beside_number {n : Nat} (many : 999 ≤ n) {p : Pattern.Placeholder}
    (hp : p.WellFormed) (overflow : ¬(Pattern.Piece.placeholder p).Fits) :
    ∃ e, Template.compile (.ofList (List.replicate n '\n' ++ p.chars)) = .error e ∧
      ∃ place : Place e.pattern e.span, ¬CaretsUnder e place := by
  have failed := compile_below_feeds (n := n) (by omega) hp overflow
  obtain ⟨-, digits, overflows, -⟩ := Template.first_of_compile_eq_error failed
  obtain ⟨place, -⟩ := exists_place_of_overflows overflows
  refine ⟨_, failed, place, ?_⟩
  rw [caretsUnder_iff, count_above place String.toList_ofList rfl, List.count_replicate_self]
  omega

/-- The carets of a report stand under the span, whatever it holds of one line of the pattern, just
when fewer than 999 lines stand above it, and each character of the span takes up one byte or none
is left on the line behind it. A longer number of the line moves the line to the right of the
carets, and there is one caret for each byte. So for the errors of compilation they stand under the
span exactly as long as the number of the line has at most three digits. -/
theorem carets_stand_under_span (e : PatternError) :
    (∀ before held after : List Char, e.pattern.toList = before ++ (held ++ after) →
      e.span = ⟨byteSize before, byteSize before + byteSize held⟩ → held ≠ [] → '\n' ∉ held →
      (after.head? = some '\n' → held.getLast? ≠ some '\r') →
      ∃ place : Place e.pattern e.span, place.held = held) ∧
    (∀ place : Place e.pattern e.span, CaretsUnder e place ↔
      place.above.count '\n' < 999 ∧ ((∀ c ∈ place.held, c.utf8Size = 1) ∨ place.back = [])) ∧
    ∀ pattern, Template.compile pattern = .error e → e.pattern = pattern ∧
      Nonempty (Place e.pattern e.span) ∧
      ∀ place : Place e.pattern e.span, CaretsUnder e place ↔ place.above.count '\n' < 999 := by
  refine ⟨fun before held after hpattern hspan hheld feedless whole =>
    exists_place hpattern hspan hheld feedless whole, fun place => caretsUnder_iff place,
    fun pattern failed => ?_⟩
  obtain ⟨rfl, digits, overflows, -⟩ := Template.first_of_compile_eq_error failed
  obtain ⟨place, -⟩ := exists_place_of_overflows overflows
  refine ⟨rfl, ⟨place⟩, fun place => ?_⟩
  rw [caretsUnder_iff]
  exact and_iff_left (.inl (utf8Size_of_overflows overflows place))

/-- The line begins with a character of two bytes, and another one is behind the number. The last
span has three bytes and two characters, and there is nothing behind it. -/
theorem carets_stand_under_span_second_line :
    let pattern := "é\r\né {18446744073709551616} é\r\n"
    let e : PatternError := ⟨pattern, ⟨7, 29⟩, .indexTooLarge "18446744073709551616"⟩
    Template.compile pattern = .error e ∧
      (∃ place : Place e.pattern e.span, CaretsUnder e place) ∧
      ∃ place : Place "é!" ⟨0, 3⟩, place.held = ['é', '!'] ∧
        CaretsUnder ⟨"é!", ⟨0, 3⟩, .stated "oops"⟩ place := by
  intro pattern e
  have failed : Template.compile pattern = .error e := by decide +kernel
  refine ⟨failed, ?_, ?_⟩
  · obtain ⟨-, -, compiled⟩ := carets_stand_under_span e
    obtain ⟨-, ⟨place⟩, under⟩ := compiled pattern failed
    refine ⟨place, (under place).2 ?_⟩
    have split : pattern.toList = "é\r\né ".toList ++ "{18446744073709551616} é\r\n".toList := by
      decide
    rw [count_above place split (by decide)]
    decide
  · obtain ⟨placed, stand, -⟩ := carets_stand_under_span ⟨"é!", ⟨0, 3⟩, .stated "oops"⟩
    obtain ⟨place, held⟩ := placed [] ['é', '!'] [] (by decide) (by decide) (by decide)
      (by decide) (by decide)
    have length : 2 = _ := congrArg List.length place.source_eq
    simp only [List.length_append, held, List.length_cons, List.length_nil] at length
    have above : place.above.length = 0 := by omega
    have back : place.back.length = 0 := by omega
    refine ⟨place, held, (stand place).2 ⟨?_, .inr (List.length_eq_zero_iff.1 back)⟩⟩
    rw [List.length_eq_zero_iff.1 above]
    decide

/-- Two errors with carets beside what they are meant for: a number that is too large in the line of
number one thousand, and a character of two bytes before another one. -/
theorem carets_beside_span :
    (∃ e, Template.compile (.ofList (List.replicate 999 '\n' ++ "{18446744073709551616}".toList)) =
        .error e ∧ ∃ place : Place e.pattern e.span, ¬CaretsUnder e place) ∧
      ∃ place : Place "é!" ⟨0, 2⟩, ¬CaretsUnder ⟨"é!", ⟨0, 2⟩, .stated "oops"⟩ place := by
  constructor
  · have wellFormed : Pattern.Placeholder.WellFormed ⟨"18446744073709551616".toList, none⟩ :=
      ⟨by decide, List.all_eq_true.1 (by decide), by simp⟩
    have overflow : ¬(Pattern.Piece.placeholder ⟨"18446744073709551616".toList, none⟩).Fits := by
      rw [Pattern.Piece.Fits]
      decide +kernel
    have chars : Pattern.Placeholder.chars ⟨"18446744073709551616".toList, none⟩ =
        "{18446744073709551616}".toList := by decide
    rw [← chars]
    exact carets_beside_number (Nat.le_refl 999) wellFormed overflow
  · refine ⟨⟨[], [], ['é'], ['!'], [], by decide, by decide, by decide, by simp, by decide,
      .atEnd⟩, ?_⟩
    rw [caretsUnder_iff]
    rintro ⟨-, single | last⟩
    · exact absurd (single 'é' List.mem_cons_self) (by decide)
    · cases last

end PatternError

end QueryDialect
