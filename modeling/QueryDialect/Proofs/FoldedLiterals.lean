import QueryDialect.Proofs.LiteralReading
import QueryDialect.Proofs.Outcome

/-!
# Literals in one letter case

A placeholder can put the literal of a string in lower or upper case. No case mapping makes or loses
a quote, and quotes are passed over where the neighbours of a sigma decide its form. So the result
is the literal of the string in that case.
-/
namespace QueryDialect

namespace Text

/-- Whether the entry could make the code point out of a character. -/
def CaseEntry.makes (code : Nat) : CaseEntry → Bool
  | shift first last _ offset => (first : Int) ≤ code - offset && (code : Int) - offset ≤ last
  | spell _ form => form.contains code

lemma ofNat_eq_quote {n : Nat} (h : Char.ofNat n = '\'') : n = '\''.toNat := by
  by_cases valid : n.isValidChar
  · rw [Char.ofNat, dif_pos valid] at h
    exact congrArg Char.toNat h
  · rw [Char.ofNat, dif_neg valid] at h
    exact absurd h (by decide)

/-- The only way to a quote is to leave a quote as it is. -/
lemma CaseEntry.eq_quote_of_mem_form {entry : CaseEntry} (h : entry.makes '\''.toNat = false)
    {c : Char} (mem : '\'' ∈ entry.form c) : c = '\'' := by
  cases entry with
  | shift first last stride offset =>
    simp only [form] at mem
    split_ifs at mem with covered
    · have code := ofNat_eq_quote (List.mem_singleton.1 mem).symm
      have ascii : '\''.toNat = 39 := rfl
      simp only [makes, Bool.and_eq_false_iff, decide_eq_false_iff_not] at h
      rw [ascii] at code h
      omega
    · exact (List.mem_singleton.1 mem).symm
  | spell code spelled =>
    simp only [form] at mem
    split_ifs at mem with covered
    · obtain ⟨n, hn, same⟩ := List.mem_map.1 mem
      have quote := List.contains_iff_mem.2 (ofNat_eq_quote same ▸ hn)
      exact absurd quote (Bool.eq_false_iff.1 h)
    · exact (List.mem_singleton.1 mem).symm

lemma lowerEntries_make_no_quote : ∀ entry ∈ lowerEntries, entry.makes '\''.toNat = false := by
  decide +kernel

lemma upperEntries_make_no_quote : ∀ entry ∈ upperEntries, entry.makes '\''.toNat = false := by
  decide +kernel

lemma eq_quote_of_mem_mapCase {entries : List CaseEntry}
    (h : ∀ entry ∈ entries, entry.makes '\''.toNat = false) {c : Char}
    (mem : '\'' ∈ mapCase entries c) : c = '\'' := by
  rcases mapCase_mem entries c with same | ⟨entry, found, same⟩
  · rw [same] at mem
    exact (List.mem_singleton.1 mem).symm
  · rw [same] at mem
    exact CaseEntry.eq_quote_of_mem_form (h entry found) mem

lemma eq_quote_of_mem_lowerChar {before after : List Char} {c : Char}
    (mem : '\'' ∈ lowerChar before c after) : c = '\'' := by
  unfold lowerChar at mem
  split_ifs at mem with sigma word
  · exact absurd mem (by decide)
  · exact absurd mem (by decide)
  · exact eq_quote_of_mem_mapCase lowerEntries_make_no_quote mem

lemma lowerChar_quote (before after : List Char) : lowerChar before '\'' after = ['\''] := by
  rw [lowerChar, if_neg (by decide)]
  decide +kernel

lemma upperChar_quote : upperChar '\'' = ['\''] := by
  decide +kernel

lemma doubleQuotes_eq_self {s : List Char} (h : '\'' ∉ s) : doubleQuotes s = s := by
  induction s with
  | nil => rfl
  | cons c s ih =>
    rw [List.mem_cons, not_or] at h
    rw [doubleQuotes_other (Ne.symm h.1), ih h.2]

lemma meetsCased_cons (c : Char) (chars : List Char) :
    meetsCased (c :: chars) = if isCaseIgnorable c then meetsCased chars else isCased c := by
  unfold meetsCased
  rw [List.dropWhile_cons]
  split_ifs <;> rfl

lemma meetsCased_quote (chars : List Char) : meetsCased ('\'' :: chars) = meetsCased chars := by
  rw [meetsCased_cons, if_pos (by decide +kernel)]

/-- The quotes of a literal do not change what a word meets behind it. -/
lemma meetsCased_doubleQuotes (chars : List Char) :
    meetsCased (doubleQuotes chars ++ ['\'']) = meetsCased chars := by
  induction chars with
  | nil => exact meetsCased_quote []
  | cons c chars ih =>
    by_cases quote : c = '\''
    · subst quote
      rw [doubleQuotes_quote, List.cons_append, List.cons_append, meetsCased_quote,
        meetsCased_quote, ih, meetsCased_quote]
    · rw [doubleQuotes_other quote, List.cons_append, meetsCased_cons, meetsCased_cons, ih]

lemma lowerChar_doubleQuotes (before after : List Char) (c : Char) :
    lowerChar (doubleQuotes before ++ ['\'']) c (doubleQuotes after ++ ['\'']) =
      lowerChar before c after := by
  unfold lowerChar endsWord
  rw [meetsCased_doubleQuotes, meetsCased_doubleQuotes]

lemma lowerFrom_quote (before after : List Char) :
    lowerFrom before ('\'' :: after) = '\'' :: lowerFrom ('\'' :: before) after := by
  rw [lowerFrom, lowerChar_quote, List.singleton_append]

/-- The text before a character is in quotes as well: it is read backwards, from its last character
to the opening quote. -/
lemma lowerFrom_doubleQuotes (before chars : List Char) :
    lowerFrom (doubleQuotes before ++ ['\'']) (doubleQuotes chars ++ ['\'']) =
      doubleQuotes (lowerFrom before chars) ++ ['\''] := by
  induction chars generalizing before with
  | nil => exact lowerFrom_quote _ []
  | cons c chars ih =>
    by_cases quote : c = '\''
    · subst quote
      have step := ih ('\'' :: before)
      rw [doubleQuotes_quote, List.cons_append, List.cons_append] at step
      rw [doubleQuotes_quote, List.cons_append, List.cons_append, lowerFrom_quote, lowerFrom_quote,
        step, lowerFrom_quote, doubleQuotes_quote, List.cons_append, List.cons_append]
    · have unquoted : '\'' ∉ lowerChar before c chars := mt eq_quote_of_mem_lowerChar quote
      have step := ih (c :: before)
      rw [doubleQuotes_other quote, List.cons_append] at step
      rw [doubleQuotes_other quote, List.cons_append, lowerFrom, step, lowerChar_doubleQuotes,
        lowerFrom, doubleQuotes_append, doubleQuotes_eq_self unquoted, List.append_assoc]

lemma flatMap_upperChar_doubleQuotes (chars : List Char) :
    (doubleQuotes chars).flatMap upperChar = doubleQuotes (chars.flatMap upperChar) := by
  induction chars with
  | nil => rfl
  | cons c chars ih =>
    by_cases quote : c = '\''
    · subst quote
      rw [doubleQuotes_quote, List.flatMap_cons, List.flatMap_cons, List.flatMap_cons, ih,
        upperChar_quote, List.singleton_append, List.singleton_append, List.singleton_append,
        doubleQuotes_quote]
    · have unquoted : '\'' ∉ upperChar c :=
        mt (eq_quote_of_mem_mapCase upperEntries_make_no_quote) quote
      rw [doubleQuotes_other quote, List.flatMap_cons, List.flatMap_cons, ih, doubleQuotes_append,
        doubleQuotes_eq_self unquoted]

lemma lower_literal (s : String) : lower (literal s) = literal (lower s) := by
  apply String.toList_injective
  rw [toList_lower, toList_literal, toList_literal, toList_lower, List.cons_append, lowerFrom_quote,
    List.cons_append]
  exact congrArg (List.cons '\'') (lowerFrom_doubleQuotes [] s.toList)

lemma upper_literal (s : String) : upper (literal s) = literal (upper s) := by
  apply String.toList_injective
  rw [toList_upper, toList_literal, toList_literal, toList_upper, List.flatMap_append,
    List.flatMap_cons, flatMap_upperChar_doubleQuotes, List.flatMap_singleton, upperChar_quote,
    List.singleton_append]

end Text

/-- A placeholder asks an argument for its usual text and applies its modifier to that text. -/
lemma Renderer.renderElement_of_renderExpr {r : Renderer} {args : List Expr} {index : Nat}
    {e : Expr} (found : args[index]? = some e) {modifier : Modifier}
    (usual : modifier.form = .usual) {text : String} {p q : Progress}
    (rendered : r.renderExpr e p = (.ok text, q)) (t : Template) (span : Text.Span) :
    t.renderElement (r.renderArgs args) Renderer.fail (fun step form => step form)
      ⟨.argument index modifier, span⟩ p = (.ok (modifier.apply text), q) := by
  have step : (r.renderArgs args)[index]? = some (renderArg e (r.renderExpr e)) := by
    rw [renderArgs_eq_map, List.getElem?_map, found, Option.map_some]
  have asked : renderArg e (r.renderExpr e) modifier.form = r.renderExpr e := by
    rw [usual]
    rfl
  simp only [Template.renderElement, step, asked]
  exact bind_run_of_ok rendered _

namespace Value

open Text

lemma apply_literal (modifier : Modifier) (s : String) :
    modifier.apply (string s).literal = (string (modifier.apply s)).literal := by
  cases modifier with
  | keep => rfl
  | plain => rfl
  | lower => exact lower_literal s
  | upper => exact upper_literal s

/-- A letter case applied to the literal of a string gives the literal of the string in that case,
and so the result is read back as that string. A placeholder over an inlined string, in any template
and with any other arguments, gives this literal and has no other effect. -/
theorem literal_in_case (s : String) (modifier : Modifier) :
    modifier.apply (string s).literal = (string (modifier.apply s)).literal ∧
    (∀ rest : List Char, rest.head? ≠ some '\'' →
      readLiteral ((modifier.apply (string s).literal).toList ++ rest) =
        some ((modifier.apply s).toList, rest)) ∧
    ∀ (r : Renderer) (t : Template) args index span type p,
      r.options.inlineConstants = true → modifier.form = .usual →
      args[index]? = some (Expr.constant type (string s)) →
        t.renderElement (r.renderArgs args) Renderer.fail (fun step form => step form)
          ⟨.argument index modifier, span⟩ p = (.ok (string (modifier.apply s)).literal, p) := by
  refine ⟨apply_literal modifier s, fun rest single => ?_,
    fun r t args index span type p inlined usual found => ?_⟩
  · rw [apply_literal]
    exact readLiteral_literal _ single
  · rw [← apply_literal]
    exact r.renderElement_of_renderExpr found usual (r.renderExpr_inlined inlined type _ p) t span

/-- In lower case, the first sigma is not at the end of a word, as a letter follows behind the
quote. The last one is, in the string as well as in front of the closing quote. In upper case one
character becomes two in front of a quote, and a final sigma is one like any other. -/
theorem literal_in_case_sigma :
    let r : Renderer := ⟨fun _ => none, { inlineConstants := true }⟩
    let args := [.constant .string (string "ß'ας"), .constant .string (string "Ο'ΣΑΣ'")]
    let t : Template := ⟨"{1l}{0u}", [⟨.argument 1 .lower, ⟨0, 4⟩⟩, ⟨.argument 0 .upper, ⟨4, 8⟩⟩]⟩
    let render := t.renderElement (r.renderArgs args) Renderer.fail (fun step form => step form)
    Modifier.lower.apply "'Ο''ΣΑΣ'''" = "'ο''σας'''" ∧
      readLiteral ("'ο''σας'''".toList ++ ", 'x'".toList) =
        some ("ο'σας'".toList, ", 'x'".toList) ∧
      render ⟨.argument 1 .lower, ⟨0, 4⟩⟩ (.start (.empty 0)) =
        (.ok "'ο''σας'''", .start (.empty 0)) ∧
      Modifier.upper.apply "'ß''ας'" = "'SS''ΑΣ'" ∧
      readLiteral ("'SS''ΑΣ'".toList ++ ")".toList) = some ("SS'ΑΣ".toList, ")".toList) ∧
      render ⟨.argument 0 .upper, ⟨4, 8⟩⟩ (.start (.empty 0)) =
        (.ok "'SS''ΑΣ'", .start (.empty 0)) := by
  intro r args t render
  obtain ⟨lowered, readLower, renderLower⟩ := literal_in_case "Ο'ΣΑΣ'" .lower
  have small : Modifier.lower.apply "Ο'ΣΑΣ'" = "ο'σας'" := by decide +kernel
  have writtenLower : (string "ο'σας'").literal = "'ο''σας'''" := by decide +kernel
  have givenLower : (string "Ο'ΣΑΣ'").literal = "'Ο''ΣΑΣ'''" := by decide +kernel
  rw [small, writtenLower] at lowered renderLower
  rw [small, lowered] at readLower
  rw [givenLower] at lowered
  obtain ⟨raised, readUpper, renderUpper⟩ := literal_in_case "ß'ας" .upper
  have large : Modifier.upper.apply "ß'ας" = "SS'ΑΣ" := by decide +kernel
  have writtenUpper : (string "SS'ΑΣ").literal = "'SS''ΑΣ'" := by decide +kernel
  have givenUpper : (string "ß'ας").literal = "'ß''ας'" := by decide +kernel
  rw [large, writtenUpper] at raised renderUpper
  rw [large, raised] at readUpper
  rw [givenUpper] at raised
  exact ⟨lowered, readLower _ (by decide), renderLower r t args 1 _ .string _ rfl rfl rfl, raised,
    readUpper _ (by decide), renderUpper r t args 0 _ .string _ rfl rfl rfl⟩

end Value

end QueryDialect
