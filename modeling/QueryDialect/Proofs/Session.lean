import QueryDialect.Proofs.LookedUp
import QueryDialect.Proofs.StoreContents

/-!
# Sessions

A session uses one store for compiling, rendering and clearing in any order. What the store holds at
its end is told by the calls since the last clearing, and what it has counted by its sizes.
-/
namespace QueryDialect

open Template (Compiles)

/-- What a session can do with its store. -/
inductive Call where
  | compile (pattern : String)
  /-- The statement of an expression, after others in the same rendering. -/
  | render (r : Renderer) (before : List Expr) (e : Expr)
  | clear

namespace Renderer

variable (r : Renderer)

/-- Whether or not they succeed, each expression leaves behind what it looked up. -/
lemma renderEach_snd (es : List Expr) {p : Progress} (h : p.store.Consistent) :
    (r.renderEach es p).2.store =
        p.store.compileAll (es.flatMap fun e => (r.outcome e p.depth).patterns) ∧
      (r.renderEach es p).2.depth = p.depth := by
  induction es generalizing p with
  | nil => exact ⟨rfl, rfl⟩
  | cons e es ih =>
    have hr := r.realizes_outcome e p h
    have hs := ih (Progress.consistent_after h (r.outcome e p.depth))
    simp only [renderEach, hr, List.flatMap_cons, TemplateStore.compileAll_append]
    exact hs

end Renderer

namespace Call

def run : Call → TemplateStore → TemplateStore
  | .compile pattern, store => (TemplateStore.compile pattern store).2
  | .render r before e, store => (r.finish e (r.renderEach before (.start store)).2).2
  | .clear, store => store.clear

/-- The patterns that the call looks up, in this order. -/
def patterns : Call → List String
  | .compile pattern => [pattern]
  | .render r before e => (before ++ [e]).flatMap fun x => (r.outcome x 0).patterns
  | .clear => []

def LooksUp : Call → String → Prop
  | .compile own, pattern => pattern = own
  | .render r before e, pattern => ∃ x ∈ before ++ [e], r.LooksUp 0 x pattern
  | .clear, _ => False

variable {call : Call} {store : TemplateStore} {pattern : String}

lemma mem_patterns : pattern ∈ call.patterns ↔ call.LooksUp pattern := by
  cases call with
  | compile own => simp [patterns, LooksUp]
  | render r before e => simp only [patterns, LooksUp, List.mem_flatMap, r.mem_patterns_outcome]
  | clear => simp [patterns, LooksUp]

/-- Every call but a clearing does no more to the store than look patterns up. -/
lemma run_eq_compileAll (h : store.Consistent) (keeps : call ≠ .clear) :
    call.run store = store.compileAll call.patterns := by
  cases call with
  | compile pattern => rfl
  | render r before e =>
    obtain ⟨hs, hd⟩ := r.renderEach_snd before (p := .start store) h
    have hp : (r.renderEach before (.start store)).2.store.Consistent := by
      rw [hs]
      exact h.compileAll _
    rw [run, r.finish_snd, r.realizes_outcome e _ hp, Progress.after, hs, hd]
    simp [patterns, TemplateStore.compileAll_append, Progress.start]
  | clear => exact absurd rfl keeps

end Call

namespace TemplateStore

variable {store : TemplateStore} {call : Call} {calls : List Call} {pattern : String}

lemma Reachable.renderEach {p : Progress} (h : p.store.Reachable) (r : Renderer) (es : List Expr) :
    (r.renderEach es p).2.store.Reachable := by
  induction es generalizing p with
  | nil => exact h
  | cons e es ih => exact ih (.render r e h)

lemma Reachable.run (h : store.Reachable) (call : Call) : (call.run store).Reachable := by
  cases call with
  | compile pattern => exact .compile pattern h
  | render r before e =>
    rw [Call.run, r.finish_snd]
    exact .render r e (.renderEach h r before)
  | clear => exact .clear h

/-- The store at the end of a session. -/
def runAll (store : TemplateStore) (calls : List Call) : TemplateStore :=
  calls.foldl (fun store call => call.run store) store

lemma runAll_cons (store : TemplateStore) (call : Call) (rest : List Call) :
    store.runAll (call :: rest) = (call.run store).runAll rest := rfl

lemma Reachable.runAll (h : store.Reachable) (calls : List Call) : (store.runAll calls).Reachable := by
  induction calls generalizing store with
  | nil => exact h
  | cons call rest ih => exact ih (h.run call)

lemma GrowsTo.run (h : store.Consistent) (keeps : call ≠ .clear) :
    store.GrowsTo (call.run store) := by
  rw [Call.run_eq_compileAll h keeps]
  exact .compileAll store call.patterns

lemma GrowsTo.runAll (h : store.Reachable) (keeps : .clear ∉ calls) :
    store.GrowsTo (store.runAll calls) := by
  induction calls generalizing store with
  | nil => exact refl store
  | cons call rest ih =>
    have hc : Call.clear ≠ call ∧ .clear ∉ rest := by simpa using keeps
    exact (run h.consistent hc.1.symm).trans (ih (h.run call) hc.2)

lemma Distinct.run (h : store.Consistent) (distinct : store.Distinct) (call : Call) :
    (call.run store).Distinct := by
  by_cases hc : call = .clear
  · rw [hc]
    exact .clear store
  · exact distinct.growsTo (.run h hc)

lemma Distinct.runAll (h : store.Reachable) (distinct : store.Distinct) (calls : List Call) :
    (store.runAll calls).Distinct := by
  induction calls generalizing store with
  | nil => exact distinct
  | cons call rest ih => exact ih (h.run call) (distinct.run h.consistent call)

lemma mem_kept_run (h : store.Consistent) :
    pattern ∈ (call.run store).kept ↔
      call ≠ .clear ∧ pattern ∈ store.kept ∨ call.LooksUp pattern ∧ Compiles pattern := by
  by_cases hc : call = .clear
  · subst hc
    simp [Call.run, Call.LooksUp]
  · rw [Call.run_eq_compileAll h hc, mem_kept_compileAll, Call.mem_patterns]
    simp [hc]

end TemplateStore

/-- A call after the last clearing looks the pattern up, and it compiles. -/
def CompiledSinceClear (calls : List Call) (pattern : String) : Prop :=
  ∃ earlier call later, calls = earlier ++ call :: later ∧ .clear ∉ later ∧
    call.LooksUp pattern ∧ Compiles pattern

lemma not_compiledSinceClear_nil (pattern : String) : ¬CompiledSinceClear [] pattern := by
  rintro ⟨earlier, call, later, h, -⟩
  simp at h

lemma compiledSinceClear_cons_iff {call : Call} {rest : List Call} {pattern : String} :
    CompiledSinceClear (call :: rest) pattern ↔
      .clear ∉ rest ∧ call.LooksUp pattern ∧ Compiles pattern ∨ CompiledSinceClear rest pattern := by
  constructor
  · intro h
    obtain ⟨earlier, found, later, same, keeps, looked⟩ := h
    cases earlier with
    | nil =>
      obtain ⟨rfl, rfl⟩ := List.cons.inj same
      exact .inl ⟨keeps, looked⟩
    | cons first earlier =>
      obtain ⟨rfl, rfl⟩ := List.cons.inj same
      exact .inr ⟨earlier, found, later, rfl, keeps, looked⟩
  · intro h
    rcases h with ⟨keeps, looked⟩ | ⟨earlier, found, later, rfl, keeps, looked⟩
    · exact ⟨[], call, rest, rfl, keeps, looked⟩
    · exact ⟨call :: earlier, found, later, rfl, keeps, looked⟩

namespace TemplateStore

variable {store : TemplateStore} {calls : List Call} {pattern : String}

lemma mem_kept_runAll (h : store.Reachable) :
    pattern ∈ (store.runAll calls).kept ↔
      .clear ∉ calls ∧ pattern ∈ store.kept ∨ CompiledSinceClear calls pattern := by
  induction calls generalizing store with
  | nil => simp [runAll, not_compiledSinceClear_nil]
  | cons call rest ih =>
    rw [runAll_cons, ih (h.run call), mem_kept_run h.consistent, compiledSinceClear_cons_iff,
      List.mem_cons]
    tauto

/-- The number of templates that the clearings of a session drop. -/
def dropped (store : TemplateStore) : List Call → Nat
  | [] => 0
  | .clear :: rest => store.size + store.clear.dropped rest
  | call :: rest => (call.run store).dropped rest

lemma dropped_clear (store : TemplateStore) (rest : List Call) :
    store.dropped (.clear :: rest) = store.size + store.clear.dropped rest := rfl

lemma dropped_cons {call : Call} (keeps : call ≠ .clear) (store : TemplateStore) (rest : List Call) :
    store.dropped (call :: rest) = (call.run store).dropped rest := by
  rw [dropped]
  exact keeps

lemma dropped_of_notMem (keeps : .clear ∉ calls) : store.dropped calls = 0 := by
  induction calls generalizing store with
  | nil => rfl
  | cons call rest ih =>
    have hc : Call.clear ≠ call ∧ .clear ∉ rest := by simpa using keeps
    rw [dropped_cons hc.1.symm, ih hc.2]

/-- Every compilation of a session made a template that is still there or was dropped. -/
lemma compiled_runAll (h : store.Reachable) :
    (store.runAll calls).compiled + store.size =
      store.compiled + (store.runAll calls).size + store.dropped calls := by
  induction calls generalizing store with
  | nil => rfl
  | cons call rest ih =>
    have hr := ih (h.run call)
    by_cases hc : call = .clear
    · subst hc
      have hclear : Call.clear.run store = store.clear := rfl
      -- what was there counts as dropped from here on
      rw [hclear, size_clear, compiled_clear] at hr
      rw [runAll_cons, hclear, dropped_clear]
      omega
    · have hg := (GrowsTo.run h.consistent hc).size_add
      rw [runAll_cons, dropped_cons hc]
      omega

/-- At the end of a session that began with an empty store, the store has what each pattern that was
compiled since the last clearing compiles to, and nothing else. All compilations are accounted for
by what it has and what was dropped. A pattern that fails changes nothing, and fails in the same way
whatever comes later. -/
theorem runAll_empty (identity : Nat) (calls : List Call) :
    let store := (empty identity).runAll calls
    (∀ pattern handle, store.find? pattern = some handle →
      Template.compile pattern = .ok handle.template ∧ handle.template.source = pattern) ∧
    (∀ pattern, store.contains pattern = true ↔ CompiledSinceClear calls pattern) ∧
    (∃ patterns : Finset String, (∀ pattern, pattern ∈ patterns ↔ CompiledSinceClear calls pattern) ∧
      store.size = patterns.card) ∧
    (store.isEmpty = true ↔ ∀ pattern, ¬CompiledSinceClear calls pattern) ∧
    (store.compiled < UInt64.size →
      store.compilations.toNat = store.size + (empty identity).dropped calls ∧
        (.clear ∉ calls → store.compilations.toNat = store.size)) ∧
    ∀ pattern e, (compile pattern store).1 = .error e →
      (compile pattern store).2 = store ∧
        ∀ later, (compile pattern (store.runAll later)).1 = .error e := by
  intro store
  have hs : store.Reachable := .runAll (.empty identity) calls
  have hk (pattern : String) : pattern ∈ store.kept ↔ CompiledSinceClear calls pattern := by
    have contents : pattern ∈ store.kept ↔
        .clear ∉ calls ∧ pattern ∈ (empty identity).kept ∨ CompiledSinceClear calls pattern :=
      mem_kept_runAll (.empty identity)
    simpa using contents
  refine ⟨fun pattern handle found => ?_, fun pattern => ?_, ⟨store.kept, hk, ?_⟩, ?_,
    fun small => ?_, fun pattern e fails => ?_⟩
  · have compiled := hs.consistent pattern handle found
    exact ⟨compiled, Template.source_of_compile compiled⟩
  · rw [← mem_kept, hk]
  · exact Distinct.runAll (.empty identity) (distinct_empty identity) calls
  · simp only [isEmpty_iff_kept, Finset.eq_empty_iff_forall_notMem, hk]
  · have counted : store.compiled + (empty identity).size =
        (empty identity).compiled + store.size + (empty identity).dropped calls :=
      compiled_runAll (.empty identity)
    have total : store.compiled = store.size + (empty identity).dropped calls := by
      have none : (empty identity).compiled = 0 ∧ (empty identity).size = 0 := ⟨rfl, rfl⟩
      omega
    have number : store.compilations.toNat = store.compiled := UInt64.toNat_ofNat_of_lt' small
    refine ⟨number.trans total, fun keeps => ?_⟩
    rw [number, total, dropped_of_notMem keeps, Nat.add_zero]
  · rw [hs.consistent.compile_eq_error_iff] at fails
    have malformed : ¬Compiles pattern := by simp [Compiles, fails]
    exact ⟨compile_eq_self (.inr malformed),
      fun later => (hs.runAll later).consistent.compile_eq_error_iff.2 fails⟩

/-- Rendering compiles one pattern in front of the clearing, where the other one is there already,
and both behind it. Without the clearing, it compiles nothing the second time. -/
theorem runAll_empty_cleared :
    let table := (PatternTable.empty.add "NOT" "not {0}").add "LOWER" "lower({0})"
    let r : Renderer := ⟨table.byName, {}⟩
    let lower := Expr.operation .string Builtin.lower.toOperator [.path .string ⟨["Name"]⟩]
    let e := Expr.operation .boolean Builtin.not.toOperator [lower]
    let malformed := "{18446744073709551616}"
    let first : List Call := [.compile "not {0}", .compile malformed, .render r [] e]
    let calls := first ++ [.clear, .render r [lower] e]
    let store := (empty 0).runAll calls
    let other := (empty 0).runAll (first ++ [.render r [lower] e])
    store.compiled < UInt64.size ∧ other.compiled < UInt64.size ∧
      .clear ∉ first ++ [.render r [lower] e] ∧
      store.compilations.toNat = store.size + 2 ∧ other.compilations.toNat = other.size ∧
      (compile malformed store).2 = store := by
  intro table r lower e malformed first calls store other
  have small : store.compiled < UInt64.size := by decide +kernel
  have small' : other.compiled < UInt64.size := by decide +kernel
  have keeps : .clear ∉ first ++ [.render r [lower] e] := by simp [first]
  have dropped : (empty 0).dropped calls = 2 := by decide +kernel
  obtain ⟨-, -, -, -, counts, fails⟩ := runAll_empty 0 calls
  obtain ⟨-, -, -, -, counts', -⟩ := runAll_empty 0 (first ++ [.render r [lower] e])
  refine ⟨small, small', keeps, ?_, (counts' small').2 keeps, ?_⟩
  · rw [← dropped]
    exact (counts small).1
  · cases compiled : (compile malformed store).1 with
    | error e => exact (fails malformed e compiled).1
    | ok handle =>
      have no : (compile malformed store).1.isOk = false := by decide +kernel
      simp [compiled, Except.isOk, Except.toBool] at no

end TemplateStore

end QueryDialect
