import QueryDialect.Proofs.PatternWriting

/-!
# The grammar of patterns

Patterns have a grammar of parsing expressions: alternatives are tried in order, a repetition takes
all it can get, and text goes on as long as no placeholder can be read. Every character sequence is
a pattern of this grammar, with exactly one tree, and the inner nodes of the tree are the pieces
that reading from left to right gives.
-/
namespace QueryDialect.Pattern

/-- What a part of a pattern was read as. -/
inductive Rule where
  | pattern | placeholder | index | modifier | text | ending
  deriving DecidableEq, Repr

/-- A part of a pattern that was read by a rule, and what rules inside of it have read. -/
structure Node where
  rule : Rule
  written : List Char
  inner : List Node

/-- A parsing expression. What is read inside of a rule becomes a node. -/
inductive Parsing where
  /-- One character of a class. -/
  | char (fits : Char → Bool)
  | nothing
  /-- The end of the text. -/
  | stop
  | seq (first second : Parsing)
  /-- The second one where the first one cannot be read. -/
  | choice (first second : Parsing)
  /-- As often as it can be read. -/
  | many (body : Parsing)
  /-- Looks ahead without reading. -/
  | absent (body : Parsing)
  | rule (name : Rule) (body : Parsing)

namespace Parsing

def optional (body : Parsing) : Parsing := .choice body .nothing

def oneOrMore (body : Parsing) : Parsing := .seq body (.many body)

def exactly (c : Char) : Parsing := .char (· == c)

/-- A small letter, or the capital one. -/
def caseless (c : Char) : Parsing := .char fun d => d == c || d == c.toUpper

def any : Parsing := .char fun _ => true

def index : Parsing := .rule .index (.oneOrMore (.char Char.isDigit))

def modifier : Parsing :=
  .rule .modifier (.choice (caseless 's') (.choice (caseless 'l') (caseless 'u')))

/-- The end of a placeholder behind its digits. -/
def closing : Parsing := .seq (.optional modifier) (exactly '}')

def placeholder : Parsing := .rule .placeholder (.seq (exactly '{') (.seq index closing))

/-- One character of a text: no placeholder begins with it. -/
def plain : Parsing := .seq (.absent placeholder) any

def text : Parsing := .rule .text (.oneOrMore plain)

def pattern : Parsing :=
  .rule .pattern (.seq (.many (.choice placeholder text)) (.rule .ending .stop))

/-- What the expression reads at the front of a text, and the rest of the text, or that it cannot be
read there. Repeating an expression that reads nothing has no outcome at all, so an outcome means that
reading comes to an end. -/
inductive Reads : Parsing → List Char → Option (List Node × List Char) → Prop
  | char {fits : Char → Bool} {c : Char} (s : List Char) (fitting : fits c = true) :
      Reads (.char fits) (c :: s) (some ([], s))
  | char_other {fits : Char → Bool} {c : Char} (s : List Char) (other : fits c = false) :
      Reads (.char fits) (c :: s) none
  | char_end (fits : Char → Bool) : Reads (.char fits) [] none
  | nothing (s : List Char) : Reads .nothing s (some ([], s))
  | stop : Reads .stop [] (some ([], []))
  | stop_before (c : Char) (s : List Char) : Reads .stop (c :: s) none
  | seq {a b : Parsing} {s t u : List Char} {xs ys : List Node}
      (first : Reads a s (some (xs, t))) (second : Reads b t (some (ys, u))) :
      Reads (.seq a b) s (some (xs ++ ys, u))
  | seq_first {a b : Parsing} {s : List Char} (first : Reads a s none) : Reads (.seq a b) s none
  | seq_second {a b : Parsing} {s t : List Char} {xs : List Node}
      (first : Reads a s (some (xs, t))) (second : Reads b t none) : Reads (.seq a b) s none
  | choice_first {a b : Parsing} {s : List Char} {x : List Node × List Char}
      (first : Reads a s (some x)) : Reads (.choice a b) s (some x)
  | choice_second {a b : Parsing} {s : List Char} {r : Option (List Node × List Char)}
      (first : Reads a s none) (second : Reads b s r) : Reads (.choice a b) s r
  | many_done {a : Parsing} {s : List Char} (done : Reads a s none) :
      Reads (.many a) s (some ([], s))
  | many_more {a : Parsing} {s t u : List Char} {xs ys : List Node}
      (once : Reads a s (some (xs, t))) (more : Reads (.many a) t (some (ys, u))) :
      Reads (.many a) s (some (xs ++ ys, u))
  | absent {a : Parsing} {s : List Char} (none : Reads a s none) :
      Reads (.absent a) s (some ([], s))
  | absent_present {a : Parsing} {s : List Char} {x : List Node × List Char}
      (present : Reads a s (some x)) : Reads (.absent a) s none
  | rule (name : Rule) {a : Parsing} {s rest written : List Char} {inner : List Node}
      (body : Reads a s (some (inner, rest))) (split : s = written ++ rest) :
      Reads (.rule name a) s (some ([⟨name, written, inner⟩], rest))
  | rule_none (name : Rule) {a : Parsing} {s : List Char} (body : Reads a s none) :
      Reads (.rule name a) s none

/-- A parsing expression reads a text in one way at most. -/
lemma Reads.unique {a : Parsing} {s : List Char} {r r' : Option (List Node × List Char)}
    (h : Reads a s r) (h' : Reads a s r') : r = r' := by
  induction h generalizing r' with
  | char _ fitting =>
    cases h' with
    | char => rfl
    | char_other _ other => cases fitting.symm.trans other
  | char_other _ other =>
    cases h' with
    | char _ fitting => cases fitting.symm.trans other
    | char_other => rfl
  | char_end | nothing | stop | stop_before => cases h'; rfl
  | seq _ _ ihFirst ihSecond =>
    cases h' with
    | seq first second =>
      cases ihFirst first
      cases ihSecond second
      rfl
    | seq_first first => cases ihFirst first
    | seq_second first second =>
      cases ihFirst first
      cases ihSecond second
  | seq_first _ ih =>
    cases h' with
    | seq first _ => cases ih first
    | seq_first => rfl
    | seq_second => rfl
  | seq_second _ _ ihFirst ihSecond =>
    cases h' with
    | seq first second =>
      cases ihFirst first
      cases ihSecond second
    | seq_first => rfl
    | seq_second => rfl
  | choice_first _ ih =>
    cases h' with
    | choice_first first => exact ih first
    | choice_second first _ => cases ih first
  | choice_second _ _ ihFirst ihSecond =>
    cases h' with
    | choice_first first => cases ihFirst first
    | choice_second _ second => exact ihSecond second
  | many_done _ ih =>
    cases h' with
    | many_done => rfl
    | many_more once _ => cases ih once
  | many_more _ _ ihOnce ihMore =>
    cases h' with
    | many_done done => cases ihOnce done
    | many_more once more =>
      cases ihOnce once
      cases ihMore more
      rfl
  | absent _ ih =>
    cases h' with
    | absent => rfl
    | absent_present present => cases ih present
  | absent_present _ ih =>
    cases h' with
    | absent none => cases ih none
    | absent_present => rfl
  | rule name _ split ih =>
    -- both have the same rest, so what is written before it is the same too
    cases h' with
    | rule _ body split' =>
      cases ih body
      obtain rfl := List.append_cancel_right (split.symm.trans split')
      rfl
    | rule_none _ body => cases ih body
  | rule_none name _ ih =>
    cases h' with
    | rule _ body _ => cases ih body
    | rule_none => rfl

end Parsing

/-- The node that a piece is read as. -/
def Piece.node : Piece → Node
  | text content => ⟨.text, content, []⟩
  | placeholder p => ⟨.placeholder, p.chars,
      ⟨.index, p.digits, []⟩ :: p.letter.toList.map fun c => ⟨.modifier, [c], []⟩⟩

namespace Parsing

lemma reads_many_char (fits : Char → Bool) (s : List Char) :
    Reads (.many (.char fits)) s (some ([], s.dropWhile fits)) := by
  induction s with
  | nil => exact .many_done (.char_end fits)
  | cons c s ih =>
    cases h : fits c with
    | false =>
      rw [List.dropWhile_cons_of_neg (by simp [h])]
      exact .many_done (.char_other s h)
    | true =>
      rw [List.dropWhile_cons_of_pos h]
      exact .many_more (.char s h) ih

/-- The index takes all digits there are, and there has to be one. -/
lemma reads_index (s : List Char) :
    Reads index s (match s.takeWhile Char.isDigit with
      | [] => none
      | d :: ds => some ([⟨.index, d :: ds, []⟩], s.dropWhile Char.isDigit)) := by
  have split := (List.takeWhile_append_dropWhile (p := Char.isDigit) (l := s)).symm
  cases s with
  | nil => exact .rule_none _ (.seq_first (.char_end _))
  | cons c s =>
    cases h : c.isDigit with
    | false =>
      rw [List.takeWhile_cons_of_neg (by simp [h])]
      exact .rule_none _ (.seq_first (.char_other s h))
    | true =>
      rw [List.takeWhile_cons_of_pos h, List.dropWhile_cons_of_pos h] at split ⊢
      exact .rule _ (.seq (.char s h) (reads_many_char _ s)) split

lemma reads_caseless (small c : Char) (s : List Char) :
    Reads (caseless small) (c :: s)
      (if c = small ∨ c = small.toUpper then some ([], s) else none) := by
  split_ifs with h
  · exact .char s (by simpa using h)
  · exact .char_other s (by simpa using h)

lemma reads_choice {a b : Parsing} {s : List Char} {x : List Node × List Char} {p q : Prop}
    [Decidable p] [Decidable q] (first : Reads a s (if p then some x else none))
    (second : Reads b s (if q then some x else none)) :
    Reads (.choice a b) s (if p ∨ q then some x else none) := by
  by_cases hp : p
  · rw [if_pos hp] at first
    rw [if_pos (.inl hp)]
    exact .choice_first first
  · rw [if_neg hp] at first
    simp only [hp, false_or]
    exact .choice_second first second

lemma isSome_ofLetter?_iff {c : Char} :
    (Modifier.ofLetter? c).isSome ↔ (c = 's' ∨ c = 's'.toUpper) ∨
      (c = 'l' ∨ c = 'l'.toUpper) ∨ (c = 'u' ∨ c = 'u'.toUpper) := by
  have capitals : 's'.toUpper = 'S' ∧ 'l'.toUpper = 'L' ∧ 'u'.toUpper = 'U' := by decide
  rw [capitals.1, capitals.2.1, capitals.2.2, Modifier.ofLetter?]
  split_ifs <;> simp_all

lemma reads_modifier (c : Char) (s : List Char) :
    Reads modifier (c :: s)
      (if (Modifier.ofLetter? c).isSome then some ([⟨.modifier, [c], []⟩], s) else none) := by
  have letters := reads_choice (reads_caseless 's' c s)
    (reads_choice (reads_caseless 'l' c s) (reads_caseless 'u' c s))
  by_cases h : (Modifier.ofLetter? c).isSome
  · rw [if_pos (isSome_ofLetter?_iff.1 h)] at letters
    rw [if_pos h]
    exact .rule _ letters rfl
  · rw [if_neg fun h' => h (isSome_ofLetter?_iff.2 h')] at letters
    rw [if_neg h]
    exact .rule_none _ letters

lemma reads_optional_modifier (c : Char) (s : List Char) :
    Reads (.optional modifier) (c :: s)
      (some (if (Modifier.ofLetter? c).isSome then ([⟨.modifier, [c], []⟩], s)
        else ([], c :: s))) := by
  have letter := reads_modifier c s
  split_ifs at letter ⊢ with h
  · exact .choice_first letter
  · exact .choice_second letter (.nothing _)

lemma reads_brace (s : List Char) : Reads (exactly '}') ('}' :: s) (some ([], s)) :=
  .char s rfl

lemma reads_brace_none {s : List Char} (h : ∀ rest, s ≠ '}' :: rest) :
    Reads (exactly '}') s none := by
  cases s with
  | nil => exact .char_end _
  | cons c s => exact .char_other s (beq_eq_false_iff_ne.2 fun brace => h s (brace ▸ rfl))

/-- Behind a modifier letter there has to be the brace. -/
lemma reads_closing (s : List Char) :
    Reads closing s ((Placeholder.closing? s).map fun x =>
      (x.1.toList.map fun c => ⟨.modifier, [c], []⟩, x.2)) := by
  unfold Placeholder.closing?
  split
  · have noLetter : Reads modifier [] none :=
      .rule_none _ (.choice_second (.char_end _) (.choice_second (.char_end _) (.char_end _)))
    exact .seq_second (.choice_second noLetter (.nothing [])) (.char_end _)
  · next rest =>
    exact .seq (reads_optional_modifier '}' rest) (reads_brace rest)
  · next c rest other =>
    have before := reads_optional_modifier c ('}' :: rest)
    split_ifs at before ⊢ with h
    · exact .seq before (reads_brace rest)
    · exact .seq_second before (reads_brace_none fun _ same => other (List.cons.inj same).1)
  · next c rest other noBrace =>
    have before := reads_optional_modifier c rest
    split_ifs at before with h
    · exact .seq_second before (reads_brace_none noBrace)
    · exact .seq_second before (reads_brace_none fun _ same => other (List.cons.inj same).1)

lemma reads_placeholder (s : List Char) :
    Reads placeholder s ((Placeholder.read? s).map fun x =>
      ([(Piece.placeholder x.1).node], x.2)) := by
  have split {x : Placeholder × List Char} (h : Placeholder.read? s = some x) :
      s = x.1.chars ++ x.2 := (Placeholder.eq_of_read? h).2
  generalize hr : Placeholder.read? s = r at split ⊢
  unfold Placeholder.read? at hr
  split at hr
  · next body =>
    have brace : Reads (exactly '{') ('{' :: body) (some ([], body)) := .char body rfl
    have digits := reads_index body
    have closed := reads_closing (body.dropWhile Char.isDigit)
    split at hr
    · next d ds letter rest taken behind =>
      rw [taken] at digits
      rw [behind] at closed
      subst hr
      exact .rule _ (.seq brace (.seq digits closed)) (split rfl)
    · next failed =>
      subst hr
      refine .rule_none _ (.seq_second brace ?_)
      cases taken : body.takeWhile Char.isDigit with
      | nil =>
        rw [taken] at digits
        exact .seq_first digits
      | cons d ds =>
        rw [taken] at digits
        cases behind : Placeholder.closing? (body.dropWhile Char.isDigit) with
        | none =>
          rw [behind] at closed
          exact .seq_second digits closed
        | some x => exact (failed d ds x.1 x.2 taken behind).elim
  · next other =>
    subst hr
    refine .rule_none _ (.seq_first ?_)
    cases s with
    | nil => exact .char_end _
    | cons c s => exact .char_other s (by simpa using other s)

lemma reads_plain {c : Char} {s : List Char} (h : Placeholder.read? (c :: s) = none) :
    Reads plain (c :: s) (some ([], s)) := by
  have absent := reads_placeholder (c :: s)
  rw [h] at absent
  exact .seq (.absent absent) (.char s rfl)

section

variable {rest : List Piece} (proper : ∀ y ∈ rest, y.Proper)
  (next : ∀ y ∈ rest.head?, y.isText = false)

include proper next

/-- A text ends before a placeholder and at the end of the pattern. -/
lemma reads_plain_none : Reads plain (rest.flatMap Piece.chars) none := by
  have front := reads_placeholder (rest.flatMap Piece.chars)
  cases rest with
  | nil => exact .seq_second (.absent front) (.char_end _)
  | cons y ys =>
    cases y with
    | text content =>
      have text := next (.text content) rfl
      cases text
    | placeholder p =>
      have wellFormed : p.WellFormed := proper (.placeholder p) List.mem_cons_self
      rw [List.flatMap_cons, Piece.chars, Placeholder.read?_chars_append wellFormed] at front
      exact .seq_first (.absent_present front)

lemma reads_many_plain {content : List Char} (unheld : ¬HoldsPlaceholder content) :
    Reads (.many plain) (content ++ rest.flatMap Piece.chars)
      (some ([], rest.flatMap Piece.chars)) := by
  induction content with
  | nil => exact .many_done (reads_plain_none proper next)
  | cons c content ih =>
    have front := reads_plain (read?_append_eq_none (List.cons_ne_nil c content) unheld next)
    exact .many_more front (ih fun held => unheld (held.cons c))

lemma reads_text {content : List Char} (nonempty : content ≠ [])
    (unheld : ¬HoldsPlaceholder content) :
    Reads text (content ++ rest.flatMap Piece.chars)
      (some ([(Piece.text content).node], rest.flatMap Piece.chars)) := by
  cases content with
  | nil => exact absurd rfl nonempty
  | cons c content =>
    have front := reads_plain (read?_append_eq_none nonempty unheld next)
    have more := reads_many_plain proper next fun held => unheld (held.cons c)
    exact .rule _ (.seq front more) rfl

end

/-- Pieces that can be read at all are read one by one. -/
lemma reads_pieces {xs : List Piece} (proper : ∀ x ∈ xs, x.Proper)
    (separated : Piece.Separated xs) (unheld : Plain xs) :
    Reads (.many (.choice placeholder text)) (xs.flatMap Piece.chars)
      (some (xs.map Piece.node, [])) := by
  have front := reads_placeholder (xs.flatMap Piece.chars)
  induction xs with
  | nil =>
    have noText : Reads plain [] none := .seq_second (.absent front) (.char_end _)
    exact .many_done (.choice_second front (.rule_none _ (.seq_first noText)))
  | cons x rest ih =>
    obtain ⟨hx, hproper⟩ := List.forall_mem_cons.1 proper
    have hunheld : Plain rest := fun content mem => unheld content (List.mem_cons_of_mem x mem)
    have more := ih hproper separated.tail hunheld (reads_placeholder _)
    rw [List.flatMap_cons] at front ⊢
    cases x with
    | placeholder p =>
      rw [Piece.chars, Placeholder.read?_chars_append hx] at front
      exact .many_more (.choice_first front) more
    | text content =>
      have next := separated.isText_head?
      have here := unheld content List.mem_cons_self
      rw [Piece.chars, read?_append_eq_none hx here next] at front
      exact .many_more (.choice_second front (reads_text hproper next hx here)) more

end Parsing

/-- The tree of a pattern. -/
def tree (s : List Char) : Node :=
  ⟨.pattern, s, (pieces s).map Piece.node ++ [⟨.ending, [], []⟩]⟩

/-- Every text is a pattern to its end, and it has no other tree. -/
lemma reads_pattern_iff {s : List Char} {r : Option (List Node × List Char)} :
    Parsing.pattern.Reads s r ↔ r = some ([tree s], []) := by
  have reads : Parsing.pattern.Reads s (some ([tree s], [])) := by
    have body := Parsing.reads_pieces (proper_pieces s) (separated_pieces s) (plain_pieces s)
    rw [flatMap_pieces] at body
    exact .rule _ (.seq body (.rule _ .stop rfl)) (List.append_nil s).symm
  exact ⟨fun h => h.unique reads, fun h => h ▸ reads⟩

end QueryDialect.Pattern
