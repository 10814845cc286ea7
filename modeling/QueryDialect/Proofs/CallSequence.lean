import QueryDialect.Proofs.PatternNormalForm

/-!
# The calls of a rendering

A rendering asks its caller for the text of one argument after another. What it asks for, in which
state, and where it ends are told here without the rendering itself: it goes through the elements up
to the first argument that is not there or that the caller refuses, and calls for nothing behind it.
-/
namespace QueryDialect

/-- Plain text is asked for by the modifier of that name alone. -/
lemma Modifier.form_eq_iff {form : TextForm} {modifier : Modifier} :
    modifier.form = form ↔ (form = .plain ↔ modifier = .plain) := by
  cases form <;> cases modifier <;> simp [form]

namespace Template

section Calls

variable {ε σ α : Type}

/-- From one state to another, all of these elements are rendered to these parts. A text stands for
itself. An argument is asked for once, in the state that those before it have left, and only a
placeholder for plain text asks for its plain form. -/
inductive RendersTo (args : List α) (textOf : α → TextForm → ExceptT ε (StateM σ) String) :
    σ → List Element → List String → List (α × TextForm) → σ → Prop
  | nil {s : σ} : RendersTo args textOf s [] [] [] s
  | text {s after : σ} {verbatim : String} {span : Text.Span} {rest : List Element}
      {parts : List String} {calls : List (α × TextForm)}
      (h : RendersTo args textOf s rest parts calls after) :
      RendersTo args textOf s (⟨.text verbatim, span⟩ :: rest) (verbatim :: parts) calls after
  | argument {s mid after : σ} {index : Nat} {modifier : Modifier} {span : Text.Span} {arg : α}
      {form : TextForm} {text : String} {rest : List Element} {parts : List String}
      {calls : List (α × TextForm)} (found : args[index]? = some arg)
      (asked : form = .plain ↔ modifier = .plain) (answered : textOf arg form s = (.ok text, mid))
      (h : RendersTo args textOf mid rest parts calls after) :
      RendersTo args textOf s (⟨.argument index modifier, span⟩ :: rest)
        (modifier.apply text :: parts) ((arg, form) :: calls) after

/-- How a rendering of these elements ends, in which state, and after which calls. -/
inductive Ends (pattern : String) (elements : List Element) (args : List α)
    (report : RenderingError → ε) (textOf : α → TextForm → ExceptT ε (StateM σ) String) (s : σ) :
    Except ε String → σ → List (α × TextForm) → Prop
  | completed {parts : List String} {calls : List (α × TextForm)} {after : σ}
      (all : RendersTo args textOf s elements parts calls after) :
      Ends pattern elements args report textOf s (.ok (String.join parts)) after calls
  | missing {front rest : List Element} {index : Nat} {modifier : Modifier} {span : Text.Span}
      {parts : List String} {calls : List (α × TextForm)} {after : σ}
      (split : elements = front ++ ⟨.argument index modifier, span⟩ :: rest)
      (before : RendersTo args textOf s front parts calls after) (beyond : args.length ≤ index) :
      Ends pattern elements args report textOf s
        (.error (report ⟨.indexOutOfRange index args.length (.template pattern), some span, none⟩))
        after calls
  | refused {front rest : List Element} {index : Nat} {modifier : Modifier} {span : Text.Span}
      {parts : List String} {calls : List (α × TextForm)} {mid after : σ} {arg : α}
      {form : TextForm} {failure : ε}
      (split : elements = front ++ ⟨.argument index modifier, span⟩ :: rest)
      (before : RendersTo args textOf s front parts calls mid) (found : args[index]? = some arg)
      (asked : form = .plain ↔ modifier = .plain)
      (refused : textOf arg form mid = (.error failure, after)) :
      Ends pattern elements args report textOf s (.error failure) after (calls ++ [(arg, form)])

/-- The same texts, with a list of what was asked for. -/
def listing (textOf : α → TextForm → ExceptT ε (StateM σ) String) :
    α → TextForm → ExceptT ε (StateM (σ × List (α × TextForm))) String :=
  fun arg form (s, calls) => ((textOf arg form s).1, (textOf arg form s).2, calls ++ [(arg, form)])

/-- A rendering with the list of its calls. -/
def renderListing (t : Template) (args : List α) (report : RenderingError → ε)
    (textOf : α → TextForm → ExceptT ε (StateM σ) String) (s : σ) :
    Except ε String × σ × List (α × TextForm) :=
  t.renderWith args (raising report) (listing textOf) (s, [])

variable {pattern : String} {t : Template} {elements front rest : List Element} {args : List α}
  {report : RenderingError → ε} {textOf : α → TextForm → ExceptT ε (StateM σ) String}
  {parts : List String} {calls : List (α × TextForm)} {s mid after : σ}

lemma renderAll_cons_run_of_ok {render : Element → ExceptT ε (StateM σ) String} {x : Element}
    {part : String} {r : Except ε String} (head : render x s = (.ok part, mid))
    (tail : renderAll render rest mid = (r, after)) :
    renderAll render (x :: rest) s = (r.map (part ++ ·), after) := by
  rw [renderAll, bind_run_of_ok head]
  cases r with
  | ok text => rw [bind_run_of_ok tail]; rfl
  | error failure => rw [bind_run_of_error tail]; rfl

lemma renderAll_cons_run_of_error {render : Element → ExceptT ε (StateM σ) String} {x : Element}
    {failure : ε} (head : render x s = (.error failure, after)) :
    renderAll render (x :: rest) s = (.error failure, after) := by
  rw [renderAll, bind_run_of_error head]

variable {index : Nat} {modifier : Modifier} {span : Text.Span} {arg : α}

lemma renderElement_run_of_ok {text : String} (found : args[index]? = some arg)
    (answered : textOf arg modifier.form s = (.ok text, mid)) :
    t.renderElement args (raising report) textOf ⟨.argument index modifier, span⟩ s =
      (.ok (modifier.apply text), mid) := by
  simp only [renderElement, found]
  rw [bind_run_of_ok answered]
  rfl

lemma renderElement_run_of_error {failure : ε} (found : args[index]? = some arg)
    (refused : textOf arg modifier.form s = (.error failure, after)) :
    t.renderElement args (raising report) textOf ⟨.argument index modifier, span⟩ s =
      (.error failure, after) := by
  simp only [renderElement, found]
  rw [bind_run_of_error refused]

lemma renderElement_run_of_missing (beyond : args.length ≤ index) :
    t.renderElement args (raising report) textOf ⟨.argument index modifier, span⟩ s =
      (.error (report (t.missingArgument index args.length span)), s) := by
  simp only [renderElement, List.getElem?_eq_none beyond]
  rfl

/-- A rendering begins with all of these elements if they can be rendered. -/
lemma RendersTo.renderAll_append (h : RendersTo args textOf s front parts calls mid)
    {r : Except ε String}
    (behind : renderAll (t.renderElement args (raising report) textOf) rest mid = (r, after)) :
    renderAll (t.renderElement args (raising report) textOf) (front ++ rest) s =
      (r.map (String.join parts ++ ·), after) := by
  have joined (part : String) (parts : List String) :
      (r.map (String.join parts ++ ·)).map (part ++ ·) =
        r.map (String.join (part :: parts) ++ ·) := by
    cases r <;> simp [Except.map, String.append_assoc]
  induction h with
  | nil => rw [List.nil_append, behind]; cases r <;> simp [Except.map]
  | text h ih =>
    rw [List.cons_append, ← joined]
    exact renderAll_cons_run_of_ok rfl (ih behind)
  | argument found asked answered h ih =>
    rw [← Modifier.form_eq_iff] at asked
    subst asked
    rw [List.cons_append, ← joined]
    exact renderAll_cons_run_of_ok (renderElement_run_of_ok found answered) (ih behind)

/-- There is one way for a rendering to end, and this is how it ends. -/
lemma Ends.renderWith_eq {r : Except ε String}
    (h : Ends t.source t.elements args report textOf s r after calls) :
    t.renderWith args (raising report) textOf s = (r, after) := by
  rw [renderWith_eq_renderAll]
  cases h with
  | completed all =>
    have behind : renderAll (t.renderElement args (raising report) textOf) [] after =
        (.ok "", after) := rfl
    have run := all.renderAll_append behind
    rw [List.append_nil] at run
    simpa [Except.map] using run
  | missing split before beyond =>
    rw [split]
    exact before.renderAll_append
      (renderAll_cons_run_of_error (renderElement_run_of_missing beyond))
  | refused split before found asked refused =>
    rw [← Modifier.form_eq_iff] at asked
    subst asked
    rw [split]
    exact before.renderAll_append
      (renderAll_cons_run_of_error (renderElement_run_of_error found refused))

lemma RendersTo.listing (h : RendersTo args textOf s elements parts calls after)
    (earlier : List (α × TextForm)) :
    RendersTo args (listing textOf) (s, earlier) elements parts calls
      (after, earlier ++ calls) := by
  induction h generalizing earlier with
  | nil => rw [List.append_nil]; exact .nil
  | text h ih => exact .text (ih earlier)
  | @argument _ _ _ _ _ _ arg form _ _ _ _ found asked answered h ih =>
    have behind := ih (earlier ++ [(arg, form)])
    rw [List.append_assoc, List.singleton_append] at behind
    exact .argument found asked (by rw [Template.listing, answered]) behind

/-- Keeping a list of the calls does not change how a rendering ends, and it lists the calls. -/
lemma Ends.listing {r : Except ε String}
    (h : Ends pattern elements args report textOf s r after calls) :
    Ends pattern elements args report (listing textOf) (s, []) r (after, calls) calls := by
  cases h with
  | completed all => exact .completed (all.listing [])
  | missing split before beyond => exact .missing split (before.listing []) beyond
  | refused split before found asked refused =>
    exact .refused split (before.listing []) found asked (by rw [Template.listing, refused]; rfl)

lemma Ends.cons_text {r : Except ε String} {verbatim : String}
    (h : Ends pattern elements args report textOf s r after calls) :
    Ends pattern (⟨.text verbatim, span⟩ :: elements) args report textOf s (r.map (verbatim ++ ·))
      after calls := by
  cases h with
  | @completed parts calls after all =>
    have same : (.ok (String.join parts) : Except ε String).map (verbatim ++ ·) =
        .ok (String.join (verbatim :: parts)) := by rw [String.join_cons]; rfl
    rw [same]
    exact .completed all.text
  | missing split before beyond => exact .missing (by rw [split]; rfl) before.text beyond
  | refused split before found asked refused =>
    exact .refused (by rw [split]; rfl) before.text found asked refused

lemma Ends.cons_argument {r : Except ε String} {text : String} (found : args[index]? = some arg)
    (answered : textOf arg modifier.form s = (.ok text, mid))
    (h : Ends pattern elements args report textOf mid r after calls) :
    Ends pattern (⟨.argument index modifier, span⟩ :: elements) args report textOf s
      (r.map (modifier.apply text ++ ·)) after ((arg, modifier.form) :: calls) := by
  have asked := Modifier.form_eq_iff.1 (Eq.refl modifier.form)
  cases h with
  | @completed parts calls after all =>
    have same : (.ok (String.join parts) : Except ε String).map (modifier.apply text ++ ·) =
        .ok (String.join (modifier.apply text :: parts)) := by rw [String.join_cons]; rfl
    rw [same]
    exact .completed (.argument found asked answered all)
  | missing split before beyond =>
    exact .missing (by rw [split]; rfl) (.argument found asked answered before) beyond
  | refused split before found' asked' refused =>
    exact .refused (by rw [split]; rfl) (.argument found asked answered before) found' asked'
      refused

/-- Every rendering ends. -/
lemma exists_ends (pattern : String) (elements : List Element) (args : List α)
    (report : RenderingError → ε) (textOf : α → TextForm → ExceptT ε (StateM σ) String) (s : σ) :
    ∃ r after calls, Ends pattern elements args report textOf s r after calls := by
  induction elements generalizing s with
  | nil => exact ⟨_, s, [], .completed .nil⟩
  | cons x rest ih =>
    obtain ⟨content, span⟩ := x
    cases content with
    | text verbatim =>
      obtain ⟨r, after, calls, ends⟩ := ih s
      exact ⟨_, after, calls, ends.cons_text⟩
    | argument index modifier =>
      cases found : args[index]? with
      | none =>
        have beyond := List.getElem?_eq_none_iff.1 found
        exact ⟨_, s, [], .missing (List.nil_append _).symm .nil beyond⟩
      | some arg =>
        rcases answer : textOf arg modifier.form s with ⟨answered, mid⟩
        cases answered with
        | error failure =>
          have asked := Modifier.form_eq_iff.1 (Eq.refl modifier.form)
          exact ⟨_, mid, _, .refused (List.nil_append _).symm .nil found asked answer⟩
        | ok text =>
          obtain ⟨r, after, calls, ends⟩ := ih mid
          exact ⟨_, after, _, ends.cons_argument found answer⟩

lemma renderListing_eq_iff {r : Except ε String} :
    t.renderListing args report textOf s = (r, after, calls) ↔
      Ends t.source t.elements args report textOf s r after calls := by
  constructor
  · intro run
    obtain ⟨r', after', calls', ends⟩ := exists_ends t.source t.elements args report textOf s
    rw [renderListing, ends.listing.renderWith_eq] at run
    cases run
    exact ends
  · intro ends
    exact ends.listing.renderWith_eq

/-- Arguments that no element refers to are not noticed. -/
lemma RendersTo.append_args (h : RendersTo args textOf s elements parts calls after)
    (more : List α) : RendersTo (args ++ more) textOf s elements parts calls after := by
  induction h with
  | nil => exact .nil
  | text h ih => exact .text ih
  | argument found asked answered h ih =>
    refine .argument ?_ asked answered ih
    rw [List.getElem?_append_left (List.getElem?_eq_some_iff.1 found).1, found]

lemma Ends.append_args {text : String}
    (h : Ends pattern elements args report textOf s (.ok text) after calls) (more : List α) :
    Ends pattern elements (args ++ more) report textOf s (.ok text) after calls := by
  cases h with
  | completed all => exact .completed (all.append_args more)

/-- Whether every placeholder has its argument. -/
def InRange (elements : List Element) (count : Nat) : Prop :=
  ∀ index modifier span, ⟨.argument index modifier, span⟩ ∈ elements → index < count

lemma RendersTo.inRange (h : RendersTo args textOf s elements parts calls after) :
    InRange elements args.length := by
  induction h with
  | nil => exact fun index modifier span mem => absurd mem List.not_mem_nil
  | text h ih =>
    intro index modifier span mem
    rcases List.mem_cons.1 mem with same | mem
    · cases same
    · exact ih index modifier span mem
  | argument found asked answered h ih =>
    intro index modifier span mem
    rcases List.mem_cons.1 mem with same | mem
    · cases same
      exact (List.getElem?_eq_some_iff.1 found).1
    · exact ih index modifier span mem

/-- Texts that are never refused. -/
def steady (textOf : α → TextForm → StateM σ String) : α → TextForm → ExceptT ε (StateM σ) String :=
  fun arg form s => (.ok (textOf arg form s).1, (textOf arg form s).2)

lemma Ends.isOk_iff {answer : α → TextForm → StateM σ String} {r : Except ε String}
    (h : Ends pattern elements args report (steady answer) s r after calls) :
    (∃ text, r = .ok text) ↔ InRange elements args.length := by
  cases h with
  | completed all => exact ⟨fun _ => all.inRange, fun _ => ⟨_, rfl⟩⟩
  | @missing front rest index modifier span parts calls after split before beyond =>
    constructor
    · rintro ⟨text, same⟩
      cases same
    · intro inRange
      have within := inRange index modifier span (by simp [split])
      omega
  | refused split before found asked refused => cases refused

/-- Texts that depend on no state. -/
def stateless (textOf : α → TextForm → String) : α → TextForm → StateM Unit String :=
  fun arg form => pure (textOf arg form)

lemma renderElement_stateless (t : Template) (args : List α) (textOf : α → TextForm → String)
    (x : Element) : t.renderElement args .error (fun arg form => .ok (textOf arg form)) x =
      (t.renderElement args (raising id) (steady (stateless textOf)) x ()).1 := by
  unfold renderElement
  cases x.content with
  | text verbatim => rfl
  | argument index modifier =>
    dsimp only
    cases args[index]? with
    | none => rfl
    | some arg => rfl

/-- A rendering with such texts is one in the only state there is. -/
lemma render_eq (t : Template) (args : List α) (textOf : α → TextForm → String) :
    t.render args textOf =
      (t.renderWith args (raising id) (steady (stateless textOf)) ()).1 := by
  rw [render, renderWith_eq_renderAll, renderWith_eq_renderAll]
  induction t.elements with
  | nil => rfl
  | cons x rest ih =>
    rw [renderAll, renderElement_stateless]
    rcases head : t.renderElement args (raising id) (steady (stateless textOf)) x () with ⟨r, s⟩
    cases r with
    | error failure => rw [renderAll_cons_run_of_error head]; rfl
    | ok part =>
      rw [ih, renderAll_cons_run_of_ok head rfl]
      cases (renderAll (t.renderElement args (raising id) (steady (stateless textOf))) rest
        s).1 with
      | error failure => rfl
      | ok tail => rfl

lemma render_eq_iff {answer : α → TextForm → String} {r : Except RenderingError String} :
    t.render args answer = r ↔
      ∃ calls, Ends t.source t.elements args id (steady (stateless answer)) () r () calls := by
  rw [render_eq]
  constructor
  · rintro rfl
    obtain ⟨r, after, calls, ends⟩ :=
      exists_ends t.source t.elements args id (steady (stateless answer)) ()
    rw [ends.renderWith_eq]
    exact ⟨calls, ends⟩
  · rintro ⟨calls, ends⟩
    rw [ends.renderWith_eq]

end Calls

/-- A rendering goes through the elements in order and asks for the text of each argument once, up
to the first one that is not there, which is not asked for, or that is refused. Its result is the
error of that one, or else the parts of all elements put together, whatever stands in the texts that
were asked for. If no text is refused, it succeeds just when every placeholder has its argument.
More arguments change neither what it asks for nor what it comes to. -/
theorem calls_until_first_error {pattern : String} {t : Template}
    (compiled : compile pattern = .ok t) {ε σ α : Type} (args : List α)
    (report : RenderingError → ε) (textOf : α → TextForm → ExceptT ε (StateM σ) String) (s : σ) :
    (∀ r after calls, t.renderListing args report textOf s = (r, after, calls) ↔
      Ends pattern t.elements args report textOf s r after calls) ∧
    (∀ r after calls, t.renderListing args report textOf s = (r, after, calls) →
      t.renderWith args (raising report) textOf s = (r, after)) ∧
    (∀ more text after calls, t.renderListing args report textOf s = (.ok text, after, calls) →
      t.renderListing (args ++ more) report textOf s = (.ok text, after, calls)) ∧
    (∀ answer : α → TextForm → StateM σ String,
      (∃ text, (t.renderWith args (raising report) (steady answer) s).1 = .ok text) ↔
        InRange t.elements args.length) ∧
    ∀ answer : α → TextForm → String,
      ((∃ text, t.render args answer = .ok text) ↔ InRange t.elements args.length) ∧
      ∀ more text, t.render args answer = .ok text → t.render (args ++ more) answer = .ok text := by
  have source := source_of_compile compiled
  subst source
  refine ⟨fun r after calls => renderListing_eq_iff, fun r after calls run => ?_,
    fun more text after calls run => ?_, fun answer => ?_,
    fun answer => ⟨?_, fun more text run => ?_⟩⟩
  · exact (renderListing_eq_iff.1 run).renderWith_eq
  · rw [renderListing_eq_iff] at run ⊢
    exact run.append_args more
  · obtain ⟨r, after, calls, ends⟩ := exists_ends t.source t.elements args report (steady answer) s
    rw [ends.renderWith_eq]
    exact ends.isOk_iff
  · obtain ⟨calls, ends⟩ := render_eq_iff.1 (Eq.refl (t.render args answer))
    exact ends.isOk_iff
  · obtain ⟨calls, ends⟩ := render_eq_iff.1 run
    exact render_eq_iff.2 ⟨calls, ends.append_args more⟩

/-- An argument is asked for in three forms, the plain one reads like a placeholder, and the caller
refuses its third call. From a later state it refuses none, and the last argument is missing. -/
theorem calls_until_first_error_third :
    let pattern := "{1}-{0S}{0u}{2}"
    let t : Template := ⟨pattern, [⟨.argument 1 .keep, ⟨0, 3⟩⟩, ⟨.text "-", ⟨3, 4⟩⟩,
      ⟨.argument 0 .plain, ⟨4, 8⟩⟩, ⟨.argument 0 .upper, ⟨8, 12⟩⟩, ⟨.argument 2 .keep, ⟨12, 15⟩⟩]⟩
    let textOf : String → TextForm → ExceptT String (StateM Nat) String := fun arg form count =>
      (if count = 2 then .error ("refused " ++ arg) else .ok (if form = .plain then "{1}" else arg),
        count + 1)
    compile pattern = .ok t ∧
      Ends pattern t.elements ["a", "b"] RenderingError.message textOf 0 (.error "refused a") 3
        [("b", .usual), ("a", .plain), ("a", .usual)] ∧
      t.renderWith ["a", "b"] (raising RenderingError.message) textOf 3 =
        (.error ("argument index 2 out of range for 2 argument(s) in template " ++
          "\"{1}-{0S}{0u}{2}\""), 6) ∧
      t.renderListing ["a", "b", "c", "d"] RenderingError.message textOf 3 =
        (.ok "b-{1}Ac", 7, [("b", .usual), ("a", .plain), ("a", .usual), ("c", .usual)]) ∧
      (∃ text, t.render ["a", "b", "c"] (fun arg _ => arg) = .ok text) ∧
      ¬∃ text, t.render ["a", "b"] (fun arg _ => arg) = .ok text := by
  intro pattern t textOf
  have compiled : compile pattern = .ok t := by decide +kernel
  obtain ⟨ends, -⟩ := calls_until_first_error compiled ["a", "b"] RenderingError.message textOf 0
  obtain ⟨-, forgotten, -, -, few⟩ :=
    calls_until_first_error compiled ["a", "b"] RenderingError.message textOf 3
  obtain ⟨-, -, more, -, enough⟩ :=
    calls_until_first_error compiled ["a", "b", "c"] RenderingError.message textOf 3
  refine ⟨compiled, (ends _ _ _).1 rfl,
    forgotten _ _ [("b", .usual), ("a", .plain), ("a", .usual)] (by decide +kernel),
    more ["d"] _ _ _ (by decide +kernel), ?_, ?_⟩
  · refine (enough _).1.2 fun index modifier span mem => ?_
    change index < 3
    simp only [t, List.mem_cons, List.not_mem_nil, or_false, Element.mk.injEq,
      ElementContent.argument.injEq, reduceCtorEq, false_and, false_or] at mem
    omega
  · intro succeeds
    exact absurd ((few _).1.1 succeeds 2 .keep ⟨12, 15⟩ (by decide)) (by decide)

end Template

end QueryDialect
