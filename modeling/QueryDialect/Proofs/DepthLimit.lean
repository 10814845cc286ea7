import QueryDialect.Proofs.FirstFault

/-!
# The depth limit

The nesting of an expression is counted along placeholders. A limit cuts off exactly the expressions
that are nested deeper, and changes nothing else.
-/
namespace QueryDialect

/-- The greatest of the numbers that the template refers to as arguments. -/
def Template.deepest (t : Template) (numbers : List Nat) : Nat :=
  (t.elements.filterMap fun x =>
    match x.content with
    | .text _ => none
    | .argument index _ => numbers[index]?).foldr max 0

lemma Template.deepest_le_iff {t : Template} {numbers : List Nat} {n : Nat} :
    t.deepest numbers ≤ n ↔ ∀ (position index : Nat) (modifier : Modifier) (span : Text.Span) (m : Nat),
      t.elements[position]? = some ⟨.argument index modifier, span⟩ → numbers[index]? = some m →
        m ≤ n := by
  have hfold (ns : List Nat) : ns.foldr max 0 ≤ n ↔ ∀ m ∈ ns, m ≤ n := by
    induction ns with
    | nil => simp
    | cons m ns ih => simp [ih]
  rw [deepest, hfold]
  simp only [List.mem_filterMap]
  constructor
  · intro h position index modifier span m placeholder found
    exact h m ⟨_, List.mem_of_getElem? placeholder, found⟩
  · rintro h m ⟨⟨content, span⟩, mem, hx⟩
    obtain ⟨position, placeholder⟩ := List.mem_iff_getElem?.1 mem
    cases content with
    | text verbatim => cases hx
    | argument index modifier => exact h position index modifier span m placeholder hx

namespace Expr

mutual

/-- How many operators and templates stand in each other along placeholders: none in a leaf, and in
any other node one more than in the arguments that its template refers to. -/
def nesting (dialect : Dialect) : Expr → Nat
  | constant .. | path .. => 0
  | operation type f args =>
    1 + ((operation type f args).template? dialect).elim 0 (·.deepest (nestings dialect args))
  | template _ t args => 1 + t.deepest (nestings dialect args)

def nestings (dialect : Dialect) : List Expr → List Nat
  | [] => []
  | e :: es => nesting dialect e :: nestings dialect es

end

variable {dialect : Dialect}

lemma nestings_eq_map (args : List Expr) : nestings dialect args = args.map (nesting dialect) := by
  induction args with
  | nil => rw [nestings, List.map_nil]
  | cons e es ih => rw [nestings, ih, List.map_cons]

lemma nesting_of_inner {e : Expr} (inner : e.plainText? = none) :
    e.nesting dialect =
      1 + (e.template? dialect).elim 0 (·.deepest (e.args.map (nesting dialect))) := by
  cases e with
  | constant => cases inner
  | path => cases inner
  | operation type f args =>
    rw [nesting, nestings_eq_map]
    rfl
  | template type t args =>
    rw [nesting, nestings_eq_map]
    rfl

/-- Every operator and template that is visited stands in fewer than so many others. -/
def VisitedWithin (dialect : Dialect) (e : Expr) (n : Nat) : Prop :=
  ∀ place s, Visits dialect e place s → s.plainText? = none → place.length < n

lemma visitedWithin_of_leaf {e : Expr} {text : String} (leaf : e.plainText? = some text) (n : Nat) :
    e.VisitedWithin dialect n := by
  intro place s visited inner
  cases visited with
  | root => simp [leaf] at inner
  | arg template => simp [plainText?_of_template? template] at leaf

lemma not_visitedWithin_zero {e : Expr} (inner : e.plainText? = none) :
    ¬e.VisitedWithin dialect 0 := fun h => Nat.not_lt_zero _ (h [] e (.root e) inner)

lemma visitedWithin_succ_iff {e : Expr} {n : Nat} :
    e.VisitedWithin dialect (n + 1) ↔ ∀ (t : Template) (position index : Nat) (modifier : Modifier)
      (span : Text.Span) (a : Expr), e.template? dialect = some t →
        t.elements[position]? = some ⟨.argument index modifier, span⟩ →
          e.args[index]? = some a → a.VisitedWithin dialect n := by
  constructor
  · intro h t position index modifier span a template placeholder found place s within inner
    exact Nat.lt_of_succ_lt_succ (h _ s (.arg template placeholder found within) inner)
  · intro h place s visited inner
    cases visited with
    | root => exact Nat.succ_pos n
    | arg template placeholder found within =>
      exact Nat.succ_lt_succ (h _ _ _ _ _ _ template placeholder found _ s within inner)

lemma nesting_le_succ_iff {e : Expr} (inner : e.plainText? = none) {n : Nat} :
    e.nesting dialect ≤ n + 1 ↔ ∀ (t : Template) (position index : Nat) (modifier : Modifier)
      (span : Text.Span) (a : Expr), e.template? dialect = some t →
        t.elements[position]? = some ⟨.argument index modifier, span⟩ →
          e.args[index]? = some a → a.nesting dialect ≤ n := by
  rw [nesting_of_inner inner, Nat.add_comm 1, Nat.add_le_add_iff_right]
  cases template : e.template? dialect with
  | none => simp
  | some t =>
    rw [Option.elim_some, Template.deepest_le_iff]
    constructor
    · rintro h _ position index modifier span a ⟨⟩ placeholder found
      exact h position index modifier span _ placeholder (by simp [found])
    · intro h position index modifier span m placeholder hm
      obtain ⟨a, found, rfl⟩ := Option.map_eq_some_iff.1 (List.getElem?_map .. ▸ hm)
      exact h t position index modifier span a rfl placeholder found

/-- The nesting is the least bound on how deep operators and templates are visited. -/
lemma nesting_le_iff {e : Expr} {n : Nat} : e.nesting dialect ≤ n ↔ e.VisitedWithin dialect n := by
  have hinner {e : Expr} (inner : e.plainText? = none)
      (ih : ∀ a ∈ e.args, ∀ {n}, a.nesting dialect ≤ n ↔ a.VisitedWithin dialect n) {n : Nat} :
      e.nesting dialect ≤ n ↔ e.VisitedWithin dialect n := by
    cases n with
    | zero =>
      refine iff_of_false ?_ (not_visitedWithin_zero inner)
      rw [nesting_of_inner inner]
      omega
    | succ n =>
      rw [nesting_le_succ_iff inner, visitedWithin_succ_iff]
      constructor
      · intro h t position index modifier span a template placeholder found
        exact (ih a (List.mem_of_getElem? found)).1 (h t _ _ _ _ a template placeholder found)
      · intro h t position index modifier span a template placeholder found
        exact (ih a (List.mem_of_getElem? found)).2 (h t _ _ _ _ a template placeholder found)
  induction e generalizing n with
  | constant type value =>
    rw [nesting]
    exact iff_of_true (Nat.zero_le n) (visitedWithin_of_leaf rfl n)
  | path type path =>
    rw [nesting]
    exact iff_of_true (Nat.zero_le n) (visitedWithin_of_leaf rfl n)
  | operation type f args ih => exact hinner (e := .operation type f args) rfl ih
  | template type t args ih => exact hinner (e := .template type t args) rfl ih

end Expr

namespace Outcome

/-- The outcome is cut off by this failure, or it is the other one. -/
def CutBy (failure : Failure) (x y : Outcome String) : Prop := x.result = .error failure ∨ x = y

namespace CutBy

variable {failure : Failure} {x x' y y' : Outcome String}

lemma map (h : CutBy failure x x') (g : String → String) : CutBy failure (g <$> x) (g <$> x') := by
  rcases h with cut | rfl
  · left
    rw [map_eq, cut]
    rfl
  · exact .inr rfl

lemma append (hx : CutBy failure x x') (hy : CutBy failure y y') :
    CutBy failure (x.append y) (x'.append y') := by
  rcases hx with cut | rfl
  · left
    rw [append_of_error cut]
  · rcases x.succeeds_or_error with ⟨head, ok⟩ | ⟨other, fails⟩
    · rcases hy with cut | rfl
      · left
        rw [append_of_error_right ok cut]
      · exact .inr rfl
    · right
      rw [append_of_error fails, append_of_error fails]

end CutBy

/-- The left and the right outcome, as a pair of sides. -/
lemma compositional_cutBy (failure : Failure) :
    Compositional (fun _ => True) fun x : Bool → Outcome String => CutBy failure (x false) (x true) where
  text _ := .inr rfl
  fault _ := .inr rfl
  modify _ _ h := h.map _
  append hx hy := hx.append hy

end Outcome

namespace Renderer

def withLimit (r : Renderer) (limit : Option Nat) : Renderer :=
  { r with options := { r.options with depthLimit := limit } }

/-- The failure of an expression that is nested too deep. -/
def tooDeep (limit : Nat) : Failure := .render { fault := .depthLimit limit }

variable {r : Renderer} {limit : Nat} {wider : Option Nat}

lemma limitReached?_withLimit {r : Renderer} {limit : Option Nat} (depth : Nat) :
    (r.withLimit limit).limitReached? depth = limit.filter (· ≤ depth) := rfl

lemma cutBy_expand (h : ∀ other, wider = some other → limit ≤ other) {t : Template}
    {args : List Expr} {depth : Nat}
    (ih : ∀ a ∈ args, ((r.withLimit (some limit)).outcome a (depth + 1)).CutBy (tooDeep limit)
      ((r.withLimit wider).outcome a (depth + 1))) :
    let limited := r.withLimit (some limit)
    (limited.expandOutcome t (limited.argOutcomes args) depth).CutBy (tooDeep limit)
      ((r.withLimit wider).expandOutcome t ((r.withLimit wider).argOutcomes args) depth) := by
  intro limited
  cases reached : limited.limitReached? depth with
  | some other =>
    obtain ⟨same, -⟩ := limited.limitReached?_eq_some_iff.1 reached
    obtain rfl : limit = other := Option.some.inj same
    left
    rw [expandOutcome_of_reached reached]
    rfl
  | none =>
    have deeper : depth < limit := by
      simpa [limited, limitReached?_withLimit, Option.filter_eq_none_iff] using reached
    have allowed : (r.withLimit wider).limitReached? depth = none := by
      rw [limitReached?_withLimit, Option.filter_eq_none_iff]
      intro other some
      have := h other some
      simpa using (by omega : depth < other)
    rw [expandOutcome_args, expandOutcome_args, reached, allowed]
    have hargs : ∀ a ∈ args, ∀ form, (limited.outcomeAs a form (depth + 1)).CutBy (tooDeep limit)
        ((r.withLimit wider).outcomeAs a form (depth + 1)) := by
      intro a mem form
      rcases outcomeAs_cases a form with ⟨text, -, plain⟩ | usual
      · rw [plain, plain]
        exact .inr rfl
      · rw [usual, usual]
        exact ih a mem
    exact @Outcome.Compositional.renderWith _ _ _ _ (Outcome.compositional_cutBy (tooDeep limit)) t
      (fun _ _ _ _ _ => trivial) args
      (fun side a form => (cond side (r.withLimit wider) limited).outcomeAs a form (depth + 1)) hargs

/-- A limit cuts the outcome off or leaves it as it is under any wider limit. -/
lemma cutBy_outcome (r : Renderer) (limit : Nat) (wider : Option Nat)
    (h : ∀ other, wider = some other → limit ≤ other) (e : Expr) (depth : Nat) :
    ((r.withLimit (some limit)).outcome e depth).CutBy (tooDeep limit)
      ((r.withLimit wider).outcome e depth) := by
  induction e generalizing depth with
  | constant type value =>
    rw [outcome_constant, outcome_constant]
    exact .inr rfl
  | path type path =>
    rw [outcome_path, outcome_path]
    exact .inr rfl
  | template type t args ih =>
    rw [outcome_template, outcome_template]
    exact cutBy_expand h fun a mem => ih a mem _
  | operation type f args ih =>
    rw [outcome_operation, outcome_operation]
    change Outcome.CutBy _ (r.templateOutcome f >>= _) (r.templateOutcome f >>= _)
    cases ht : (r.templateOutcome f).result with
    | error failure =>
      rw [Outcome.bind_of_error ht, Outcome.bind_of_error ht]
      exact .inr rfl
    | ok t =>
      rw [Outcome.bind_of_ok ht, Outcome.bind_of_ok ht]
      rcases cutBy_expand h (t := t) fun a mem => ih a mem (depth + 1) with cut | same
      · exact .inl cut
      · right
        rw [same]

/-- Only a node that stands deeper than the limit is reported as too deep. -/
lemma NodeFault.of_depthLimit {depth : Nat} {s : Expr} {place : Place} {stage : Stage}
    {failure : Failure} (h : r.NodeFault depth s place stage failure)
    (kind : failure.renderKind? = some .depthLimit) :
    s.plainText? = none ∧ ∃ limit, r.options.depthLimit = some limit ∧ limit ≤ depth := by
  cases h with
  | argument => cases kind
  | pattern => cases kind
  | compilation => cases kind
  | depth inner limited deep => exact ⟨inner, _, limited, deep⟩

lemma exists_visits_of_depthLimit {e : Expr} {failure : Failure}
    (h : (r.outcome e 0).result = .error failure) (kind : failure.renderKind? = some .depthLimit) :
    ∃ limit place s, r.options.depthLimit = some limit ∧ Visits r.dialect e place s ∧
      s.plainText? = none ∧ limit ≤ place.length := by
  obtain ⟨-, stage, ⟨outer, s, inner, -, visited, fault⟩, -⟩ := outcome_eq_error_iff.1 h
  obtain ⟨plain, limit, limited, deep⟩ := fault.of_depthLimit kind
  exact ⟨limit, outer, s, limited, visited, plain, by simpa using deep⟩

/-- What can be rendered without a limit is cut off if and only if it is nested deeper. -/
lemma outcome_withLimit_eq_tooDeep_iff (r : Renderer) {e : Expr} (limit : Nat)
    (h : ((r.withLimit none).outcome e 0).Succeeds) :
    ((r.withLimit (some limit)).outcome e 0).result = .error (tooDeep limit) ↔
      limit < e.nesting r.dialect := by
  constructor
  · intro cut
    obtain ⟨other, place, s, limited, visited, inner, deep⟩ := exists_visits_of_depthLimit cut rfl
    obtain rfl : limit = other := Option.some.inj limited
    by_contra shallow
    have within := Expr.nesting_le_iff.1 (Nat.le_of_not_lt shallow) place s visited inner
    omega
  · intro deep
    rcases r.cutBy_outcome limit none (fun _ => nofun) e 0 with cut | same
    · exact cut
    · -- if it were rendered under the limit, no node would be visited below it
      have succeeds := succeeds_outcome_iff.1 (same ▸ h)
      have permits := (forall_not_violates_iff _ 0 e).1 succeeds
      refine absurd (Expr.nesting_le_iff.2 fun place s visited inner => ?_) (Nat.not_le_of_lt deep)
      simpa using (permits place s visited).within_limit inner limit rfl

/-- A limit lets an expression through if it is nested no deeper, and else cuts it off. What fails
without a limit fails under one in the same way or is cut off, and without a limit nothing is cut
off. What a limit does not cut off stays as it is under every greater one. -/
theorem statement_withLimit (r : Renderer) (e : Expr) (limit : Nat) {store other : TemplateStore}
    (hs : store.Reachable) (ho : other.Reachable) :
    let unlimited := ((r.withLimit none).statement e store).1
    let limited := ((r.withLimit (some limit)).statement e other).1
    (∀ s, unlimited = .ok s → limited =
      if e.nesting r.dialect ≤ limit then .ok s else .error (tooDeep limit)) ∧
    (∀ failure, unlimited = .error failure →
      failure.renderKind? ≠ some .depthLimit ∧
        (limited = .error failure ∨ limited = .error (tooDeep limit))) ∧
    ∀ wider third, limit ≤ wider → third.Reachable → limited ≠ .error (tooDeep limit) →
      ((r.withLimit (some wider)).statement e third).1 = limited := by
  intro unlimited limited
  have hu : unlimited = ((r.withLimit none).outcome e 0).statement := hs.statement_fst _ e
  have hl : limited = ((r.withLimit (some limit)).outcome e 0).statement := ho.statement_fst _ e
  have hcut := r.cutBy_outcome limit none (fun _ => nofun) e 0
  refine ⟨fun s ok => ?_, fun failure fails => ⟨fun kind => ?_, ?_⟩, fun wider third le ht intact => ?_⟩
  · rw [hu, Outcome.statement_eq_ok_iff] at ok
    have hdeep := r.outcome_withLimit_eq_tooDeep_iff limit ⟨s.text, ok.1⟩
    split_ifs with shallow
    · rcases hcut with cut | same
      · exact absurd shallow (Nat.not_le_of_lt (hdeep.1 cut))
      · rw [hl, same, Outcome.statement_eq_ok_iff]
        exact ok
    · rw [hl, Outcome.statement_eq_error_iff]
      exact hdeep.2 (Nat.lt_of_not_le shallow)
  · rw [hu, Outcome.statement_eq_error_iff] at fails
    obtain ⟨other, -, -, limited, -⟩ := exists_visits_of_depthLimit fails kind
    cases limited
  · rcases hcut with cut | same
    · exact .inr (hl.trans (Outcome.statement_of_error cut))
    · left
      rw [hl, same, ← hu, fails]
  · rcases r.cutBy_outcome limit (some wider)
      (fun n some => Option.some.inj some ▸ le) e 0 with cut | same
    · exact absurd (hl.trans (Outcome.statement_of_error cut)) intact
    · rw [ht.statement_fst, hl, same]

/-- The pattern refers to the first of two arguments only, so the second one may be nested deeper. -/
theorem statement_withLimit_unreferred :
    let r : Renderer := ⟨fun _ => some "not {0}", {}⟩
    let apply := Expr.operation .boolean Builtin.not.toOperator
    let path := Expr.path .boolean ⟨["ok"]⟩
    let e := apply [apply [path], apply [apply [apply [path]]]]
    let store := TemplateStore.empty 0
    let other := (TemplateStore.compile "not {0}" store).2
    store.Reachable ∧ other.Reachable ∧
      ((r.withLimit (some 2)).statement e other).1 = .ok ⟨"not not ok", []⟩ ∧
      ((r.withLimit (some 1)).statement e other).1 = .error (tooDeep 1) := by
  intro r apply path e store other
  have hs : store.Reachable := .empty 0
  have ho : other.Reachable := .compile "not {0}" hs
  have unlimited : ((r.withLimit none).statement e store).1 = .ok ⟨"not not ok", []⟩ := by
    decide +kernel
  have nesting : e.nesting r.dialect = 2 := by decide +kernel
  have two := (r.statement_withLimit e 2 hs ho).1 _ unlimited
  have one := (r.statement_withLimit e 1 hs ho).1 _ unlimited
  rw [nesting] at two one
  exact ⟨hs, ho, two, one⟩

end Renderer

end QueryDialect
