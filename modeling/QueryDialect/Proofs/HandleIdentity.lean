import QueryDialect.Proofs.Session

/-!
# Identity of handles

Handles are numbered by the store that made them. A store gives out the handle it keeps for a pattern
as long as it keeps it, and what was given out before a clearing, or by an earlier store, is never
given out again. So two handles of a session are identical exactly if they belong to one pattern and
nothing was forgotten between them.
-/
namespace QueryDialect

/-- What a session can do: call its store, or go on with a new one. -/
inductive SessionStep where
  | call (call : Call)
  | renew

namespace TemplateHandle

lemma identical_iff {a b : TemplateHandle} :
    a.identical b = true ↔ a.store = b.store ∧ a.number = b.number := by
  simp [identical]

lemma identical_self (a : TemplateHandle) : a.identical a = true := identical_iff.2 ⟨rfl, rfl⟩

lemma identical_comm (a b : TemplateHandle) : a.identical b = b.identical a := by
  rw [Bool.eq_iff_iff, identical_iff, identical_iff, eq_comm, eq_comm (a := a.number)]

end TemplateHandle

namespace TemplateStore

variable {store : TemplateStore} {pattern : String} {a b handle : TemplateHandle}

lemma find?_compile (h : (compile pattern store).1 = .ok handle) :
    (compile pattern store).2.find? pattern = some handle := by
  cases found : store.find? pattern with
  | some kept =>
    rw [compile_of_find? found] at h ⊢
    obtain rfl := Except.ok.inj h
    exact found
  | none =>
    cases fresh : Template.compile pattern with
    | error e =>
      rw [compile_of_error found fresh] at h
      cases h
    | ok t =>
      rw [compile_of_ok found fresh] at h ⊢
      obtain rfl := Except.ok.inj h
      rw [find?_insert, if_pos rfl]

/-- A property of stores that nothing in a session breaks. -/
structure Invariant (P : TemplateStore → Prop) : Prop where
  insert : ∀ {store} pattern t, P store → P (store.insert pattern t).2
  clear : ∀ {store}, P store → P store.clear
  renew : ∀ {store}, P store → P store.successor

namespace Invariant

variable {P : TemplateStore → Prop} (inv : Invariant P)
include inv

lemma compile (h : P store) (pattern : String) : P (compile pattern store).2 := by
  rcases compile_cases store pattern with ⟨-, same⟩ | ⟨-, t, -, same⟩
  · rwa [same]
  · rw [same]
    exact inv.insert pattern t h

lemma compileAll (h : P store) (patterns : List String) : P (store.compileAll patterns) := by
  induction patterns generalizing store with
  | nil => exact h
  | cons pattern rest ih => exact ih (inv.compile h pattern)

lemma call (hs : store.Consistent) (h : P store) (call : Call) : P (call.run store) := by
  by_cases hc : call = .clear
  · subst hc
    exact inv.clear h
  · rw [Call.run_eq_compileAll hs hc]
    exact inv.compileAll h call.patterns

end Invariant

end TemplateStore

namespace SessionStep

def run : SessionStep → TemplateStore → TemplateStore
  | .call c, store => c.run store
  | .renew, store => store.successor

/-- The step forgets what the store has kept. -/
def Forgets (step : SessionStep) : Prop := step = .call .clear ∨ step = .renew

end SessionStep

namespace TemplateStore

variable {store : TemplateStore} {steps : List SessionStep} {pattern p q : String}
  {a b handle : TemplateHandle}

/-- The store that a session comes to. -/
def runSteps (store : TemplateStore) (steps : List SessionStep) : TemplateStore :=
  steps.foldl (fun store step => step.run store) store

lemma runSteps_append (store : TemplateStore) (steps more : List SessionStep) :
    store.runSteps (steps ++ more) = (store.runSteps steps).runSteps more := by
  simp [runSteps]

lemma Reachable.step (h : store.Reachable) (step : SessionStep) : (step.run store).Reachable := by
  cases step with
  | call call => exact h.run call
  | renew => exact .empty (store.identity + 1)

lemma Reachable.runSteps (h : store.Reachable) (steps : List SessionStep) :
    (store.runSteps steps).Reachable := by
  induction steps generalizing store with
  | nil => exact h
  | cons step rest ih => exact ih (h.step step)

lemma Invariant.step {P : TemplateStore → Prop} (inv : Invariant P) (hs : store.Consistent)
    (h : P store) (step : SessionStep) : P (step.run store) := by
  cases step with
  | call call => exact inv.call hs h call
  | renew => exact inv.renew h

lemma Invariant.runSteps {P : TemplateStore → Prop} (inv : Invariant P) (hs : store.Reachable)
    (h : P store) (steps : List SessionStep) : P (store.runSteps steps) := by
  induction steps generalizing store with
  | nil => exact h
  | cons step rest ih => exact ih (hs.step step) (inv.step hs.consistent h step)

lemma GrowsTo.runSteps (hs : store.Reachable) (keeps : ∀ step ∈ steps, ¬step.Forgets) :
    store.GrowsTo (store.runSteps steps) := by
  induction steps generalizing store with
  | nil => exact refl store
  | cons step rest ih =>
    obtain ⟨first, later⟩ := List.forall_mem_cons.1 keeps
    have hrest := ih (hs.step step) later
    cases step with
    | renew => exact absurd (.inr rfl) first
    | call call =>
      have hc : call ≠ .clear := by
        rintro rfl
        exact first (.inl rfl)
      exact (run hs.consistent hc).trans hrest

/-- The handle was made by this store, or by one that this store has taken the place of. -/
def HasMade (store : TemplateStore) (handle : TemplateHandle) : Prop :=
  handle.store < store.identity ∨ handle.store = store.identity ∧ handle.number < store.compiled

lemma invariant_hasMade (handle : TemplateHandle) : Invariant (·.HasMade handle) where
  insert {store} pattern t h := by
    rcases h with earlier | ⟨same, counted⟩
    · exact .inl earlier
    · exact .inr ⟨same, Nat.lt_succ_of_lt counted⟩
  clear h := h
  renew {store} h := by
    have older : handle.store ≤ store.identity := h.elim Nat.le_of_lt fun own => own.1.le
    exact .inl (Nat.lt_succ_of_le older)

/-- The handles in a store are its own, and no two patterns share one. -/
structure Numbered (store : TemplateStore) : Prop where
  own : ∀ pattern handle, store.find? pattern = some handle →
    handle.store = store.identity ∧ handle.number < store.compiled
  apart : ∀ p q a b, store.find? p = some a → store.find? q = some b → a.number = b.number → p = q

lemma numbered_empty (identity : Nat) : (empty identity).Numbered := by
  constructor
  · intro pattern handle found
    simp at found
  · intro p q a b found
    simp at found

lemma Numbered.insert (h : store.Numbered) (pattern : String) (t : Template) :
    (store.insert pattern t).2.Numbered := by
  have own : ∀ key handle, (store.insert pattern t).2.find? key = some handle →
      key = pattern ∧ handle = (store.insert pattern t).1 ∨
        key ≠ pattern ∧ store.find? key = some handle := by
    intro key handle found
    rw [find?_insert] at found
    split_ifs at found with same
    · exact .inl ⟨same, (Option.some.inj found).symm⟩
    · exact .inr ⟨same, found⟩
  have fresh : (store.insert pattern t).1.number = store.compiled := rfl
  constructor
  · intro key handle found
    rcases own key handle found with ⟨-, rfl⟩ | ⟨-, old⟩
    · exact ⟨rfl, Nat.lt_succ_self store.compiled⟩
    · obtain ⟨same, counted⟩ := h.own key handle old
      exact ⟨same, Nat.lt_succ_of_lt counted⟩
  · intro p q a b hp hq number
    -- a number that the counter has passed is not the one of the new handle
    rcases own p a hp with ⟨rfl, rfl⟩ | ⟨-, oldp⟩
    · rcases own q b hq with ⟨rfl, -⟩ | ⟨-, oldq⟩
      · rfl
      · have counted := (h.own q b oldq).2
        omega
    · rcases own q b hq with ⟨rfl, rfl⟩ | ⟨-, oldq⟩
      · have counted := (h.own p a oldp).2
        omega
      · exact h.apart p q a b oldp oldq number

lemma invariant_numbered : Invariant Numbered where
  insert pattern t h := h.insert pattern t
  clear {store} _ := ⟨fun _ _ found => by simp at found, fun _ _ _ _ found => by simp at found⟩
  renew {store} _ := numbered_empty (store.identity + 1)

lemma hasMade_compile (h : store.Numbered) (made : (compile pattern store).1 = .ok handle) :
    (compile pattern store).2.HasMade handle :=
  .inr ((invariant_numbered.compile h pattern).own pattern handle (find?_compile made))

/-- The handle has been made, but the store does not keep it any more. -/
structure Retired (store : TemplateStore) (handle : TemplateHandle) : Prop where
  made : store.HasMade handle
  absent : ∀ pattern kept, store.find? pattern = some kept → handle.identical kept = false

lemma invariant_retired (handle : TemplateHandle) : Invariant (·.Retired handle) where
  insert {store} pattern t h := by
    refine ⟨(invariant_hasMade handle).insert pattern t h.made, fun key kept found => ?_⟩
    rw [find?_insert] at found
    split_ifs at found with same
    · obtain rfl := Option.some.inj found
      rw [Bool.eq_false_iff, ne_eq, TemplateHandle.identical_iff]
      rintro ⟨own, number⟩
      have hstore : handle.store = store.identity := own
      have hnumber : handle.number = store.compiled := number
      rcases h.made with earlier | ⟨-, counted⟩ <;> omega
    · exact h.absent key kept found
  clear h := ⟨h.made, fun _ _ found => by simp at found⟩
  renew {store} h := ⟨(invariant_hasMade handle).renew h.made, fun _ _ found => by
    simp [successor] at found⟩

lemma retired_of_forgets {step : SessionStep} (forgets : step.Forgets) (made : store.HasMade handle) :
    (step.run store).Retired handle := by
  rcases forgets with rfl | rfl
  · exact ⟨made, fun _ _ found => by simp [SessionStep.run, Call.run] at found⟩
  · exact ⟨(invariant_hasMade handle).renew made, fun _ _ found => by
      simp [SessionStep.run, successor] at found⟩

lemma retired_runSteps (hs : store.Reachable) (made : store.HasMade handle)
    (forgets : ∃ step ∈ steps, step.Forgets) : (store.runSteps steps).Retired handle := by
  obtain ⟨step, mem, hstep⟩ := forgets
  obtain ⟨before, after, rfl⟩ := List.append_of_mem mem
  have hb := hs.runSteps before
  have there := (invariant_hasMade handle).runSteps hs made before
  rw [runSteps_append]
  exact (invariant_retired handle).runSteps (hb.step step) (retired_of_forgets hstep there) after

/-- Two handles that a session gets one after the other, with some steps in between. -/
lemma identical_iff_of_steps (hs : store.Reachable) (numbered : store.Numbered)
    (ha : (compile p store).1 = .ok a)
    (hb : (compile q ((compile p store).2.runSteps steps)).1 = .ok b) :
    a.identical b = true ↔ p = q ∧ ∀ step ∈ steps, ¬step.Forgets := by
  have hafter : (compile p store).2.Reachable := .compile p hs
  have hnumbered := invariant_numbered.compile numbered p
  set last := (compile p store).2.runSteps steps
  have hb' : (compile q last).2.find? q = some b := find?_compile hb
  by_cases keeps : ∀ step ∈ steps, ¬step.Forgets
  · have grows : (compile p store).2.GrowsTo (compile q last).2 :=
      (GrowsTo.runSteps hafter keeps).trans (.compile last q)
    have ha' : (compile q last).2.find? p = some a := grows.keeps p a (find?_compile ha)
    have final : (compile q last).2.Numbered :=
      invariant_numbered.compile (invariant_numbered.runSteps hafter hnumbered steps) q
    refine ⟨fun same => ⟨?_, keeps⟩, fun same => ?_⟩
    · exact final.apart p q a b ha' hb' (TemplateHandle.identical_iff.1 same).2
    · obtain rfl := same.1
      obtain rfl := Option.some.inj (ha'.symm.trans hb')
      exact a.identical_self
  · have forgets : ∃ step ∈ steps, step.Forgets := by
      simpa only [not_forall, exists_prop, not_not] using keeps
    have gone := retired_runSteps hafter (hasMade_compile numbered ha) forgets
    have differs := ((invariant_retired a).compile gone q).absent q b hb'
    exact iff_of_false (by simp [differs]) fun same => keeps same.2

/-- The compilation at this position of a session gives this handle. -/
structure Gives (store : TemplateStore) (steps : List SessionStep) (position : Nat)
    (pattern : String) (handle : TemplateHandle) : Prop where
  step : steps[position]? = some (.call (.compile pattern))
  made : (compile pattern (store.runSteps (steps.take position))).1 = .ok handle

/-- No step between these two positions, in whichever order they come, forgets templates. -/
def KeepsBetween (steps : List SessionStep) (i j : Nat) : Prop :=
  ∀ k step, min i j < k → k < max i j → steps[k]? = some step → ¬step.Forgets

lemma keepsBetween_comm {i j : Nat} : KeepsBetween steps i j ↔ KeepsBetween steps j i := by
  rw [KeepsBetween, KeepsBetween, min_comm, max_comm]

lemma Gives.unique {position : Nat} (ha : store.Gives steps position p a)
    (hb : store.Gives steps position q b) : p = q ∧ a = b := by
  have hstep := Option.some.inj (ha.step.symm.trans hb.step)
  obtain rfl : p = q := by simpa using hstep
  exact ⟨rfl, Except.ok.inj (ha.made.symm.trans hb.made)⟩

lemma Gives.compile_eq {position : Nat} (hs : store.Reachable) (h : store.Gives steps position p a) :
    Template.compile p = .ok a.template := by
  have answer := (hs.runSteps (steps.take position)).consistent.compile_result p
  rw [h.made] at answer
  exact answer.symm

/-- The steps up to a position, then the one at it, then those up to a later position. -/
lemma take_eq_append {i j : Nat} (lt : i < j) {step : SessionStep} (h : steps[i]? = some step) :
    steps.take j = steps.take i ++ (step :: (steps.take j).drop (i + 1)) := by
  have hi : (steps.take j)[i]? = some step := (List.getElem?_take_of_lt lt).trans h
  obtain ⟨inside, same⟩ := List.getElem?_eq_some_iff.1 hi
  have hcut := List.take_append_drop i (steps.take j)
  rw [List.take_take, Nat.min_eq_left lt.le, List.drop_eq_getElem_cons inside, same] at hcut
  exact hcut.symm

lemma forall_mem_drop_take {i j : Nat} (lt : i < j) :
    (∀ step ∈ (steps.take j).drop (i + 1), ¬step.Forgets) ↔ KeepsBetween steps i j := by
  rw [KeepsBetween, Nat.min_eq_left lt.le, Nat.max_eq_right lt.le]
  constructor
  · intro keeps k step after before found
    refine keeps step (List.mem_iff_getElem?.2 ⟨k - (i + 1), ?_⟩)
    have hk : i + 1 + (k - (i + 1)) = k := by omega
    rw [List.getElem?_drop, hk, List.getElem?_take_of_lt before, found]
  · intro keeps step mem
    obtain ⟨k, hk⟩ := List.mem_iff_getElem?.1 mem
    rw [List.getElem?_drop, List.getElem?_take] at hk
    split_ifs at hk with before
    exact keeps (i + 1 + k) step (by omega) before hk

lemma Gives.identical_iff_of_lt (hs : store.Reachable) (numbered : store.Numbered) {i j : Nat}
    (lt : i < j) (ha : store.Gives steps i p a) (hb : store.Gives steps j q b) :
    a.identical b = true ↔ p = q ∧ KeepsBetween steps i j := by
  have hi : (store.runSteps (steps.take i)).Reachable := hs.runSteps _
  have hn : (store.runSteps (steps.take i)).Numbered := invariant_numbered.runSteps hs numbered _
  have hcut : store.runSteps (steps.take j) =
      (compile p (store.runSteps (steps.take i))).2.runSteps ((steps.take j).drop (i + 1)) :=
    (congrArg store.runSteps (take_eq_append lt ha.step)).trans (runSteps_append ..)
  have later := hb.made
  rw [hcut] at later
  rw [identical_iff_of_steps hi hn ha.made later, forall_mem_drop_take lt]

/-- Two handles of a session that began with an empty store are identical exactly if they belong to
one pattern and nothing between the two compilations cleared the store or replaced it. They have
equal templates exactly if their patterns are equal, whatever lies between. At every point of the
session, and with any way to turn arguments into text, a handle is rendered like the template that
its pattern is compiled to then. -/
theorem identical_iff_nothing_forgotten (identity : Nat) (steps : List SessionStep) {i j : Nat}
    {p q : String} {a b : TemplateHandle} (ha : (empty identity).Gives steps i p a)
    (hb : (empty identity).Gives steps j q b) :
    (a.identical b = true ↔ p = q ∧ KeepsBetween steps i j) ∧
    (a.template = b.template ↔ p = q) ∧
    a.template.source = p ∧ ∀ k, ∃ fresh,
      (compile p ((empty identity).runSteps (steps.take k))).1 = .ok fresh ∧
        ∀ (α : Type) (m : Type → Type) [Monad m] (args : List α) (raise : RenderingError → m String)
          (textOf : α → TextForm → m String),
            a.template.renderWith args raise textOf = fresh.template.renderWith args raise textOf := by
  have hs : (empty identity).Reachable := .empty identity
  have hn := numbered_empty identity
  have hp := ha.compile_eq hs
  have hq := hb.compile_eq hs
  have source := Template.source_of_compile hp
  refine ⟨?_, ⟨fun same => ?_, ?_⟩, source, fun k => ?_⟩
  · rcases Nat.lt_trichotomy i j with lt | rfl | gt
    · exact ha.identical_iff_of_lt hs hn lt hb
    · obtain ⟨rfl, rfl⟩ := ha.unique hb
      refine iff_of_true a.identical_self ⟨rfl, fun k step after before => ?_⟩
      omega
    · rw [TemplateHandle.identical_comm, hb.identical_iff_of_lt hs hn gt ha, keepsBetween_comm,
        eq_comm]
  · rw [← source, same, Template.source_of_compile hq]
  · rintro rfl
    exact Except.ok.inj (hp.symm.trans hq)
  · have answer := (hs.runSteps (steps.take k)).consistent.compile_result p
    rw [hp] at answer
    cases hfresh : (compile p ((empty identity).runSteps (steps.take k))).1 with
    | error e =>
      rw [hfresh] at answer
      cases answer
    | ok fresh =>
      rw [hfresh] at answer
      have same : fresh.template = a.template := Except.ok.inj answer
      exact ⟨fresh, rfl, fun α m _ args raise textOf => by rw [same]⟩

/-- A rendering compiles the pattern first. A pattern that differs by a leading zero stays apart,
and after a clearing and a change of store the template is made anew. -/
theorem identical_iff_nothing_forgotten_rendered_first :
    let r : Renderer := ⟨(PatternTable.empty.add "NOT" "not {0}").byName, {}⟩
    let e := Expr.operation .boolean Builtin.not.toOperator [.path .boolean ⟨["Paid"]⟩]
    let steps : List SessionStep := [.call (.render r [] e), .call (.compile "not {0}"),
      .call (.compile "not {00}"), .call (.compile "not {0}"), .call .clear, .renew,
      .call (.compile "not {0}")]
    let t : Template := ⟨"not {0}", [⟨.text "not ", ⟨0, 4⟩⟩, ⟨.argument 0 .keep, ⟨4, 7⟩⟩]⟩
    let u : Template := ⟨"not {00}", [⟨.text "not ", ⟨0, 4⟩⟩, ⟨.argument 0 .keep, ⟨4, 8⟩⟩]⟩
    let store := empty 0
    (store.Gives steps 1 "not {0}" ⟨t, 0, 0⟩ ∧ store.Gives steps 2 "not {00}" ⟨u, 0, 1⟩ ∧
      store.Gives steps 3 "not {0}" ⟨t, 0, 0⟩ ∧ store.Gives steps 6 "not {0}" ⟨t, 1, 0⟩) ∧
    KeepsBetween steps 1 3 ∧ ¬KeepsBetween steps 1 6 ∧ t ≠ u := by
  intro r e steps t u store
  have first : store.Gives steps 1 "not {0}" ⟨t, 0, 0⟩ := ⟨rfl, by decide +kernel⟩
  have zeros : store.Gives steps 2 "not {00}" ⟨u, 0, 1⟩ := ⟨rfl, by decide +kernel⟩
  have again : store.Gives steps 3 "not {0}" ⟨t, 0, 0⟩ := ⟨rfl, by decide +kernel⟩
  have anew : store.Gives steps 6 "not {0}" ⟨t, 1, 0⟩ := ⟨rfl, by decide +kernel⟩
  obtain ⟨same, -⟩ := identical_iff_nothing_forgotten 0 steps first again
  obtain ⟨other, -⟩ := identical_iff_nothing_forgotten 0 steps first anew
  obtain ⟨-, apart, -⟩ := identical_iff_nothing_forgotten 0 steps first zeros
  refine ⟨⟨first, zeros, again, anew⟩, (same.1 (by decide)).2, fun keeps => ?_, fun equal => ?_⟩
  · exact absurd (other.2 ⟨rfl, keeps⟩) (by decide)
  · exact absurd (apart.1 equal) (by decide)

end TemplateStore

end QueryDialect
