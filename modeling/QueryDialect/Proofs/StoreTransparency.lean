import QueryDialect.Proofs.Session

/-!
# Transparency of the store

What a store holds shows in no statement. A statement leaves the patterns behind that it looked up
on its way, as far as they compile, and each of them costs one compilation if it is new.
-/
namespace QueryDialect

open Template (Compiles)
open TemplateStore (GrowsTo)

namespace Renderer

variable {r : Renderer} {e : Expr} {store : TemplateStore} {pattern : String}

lemma statement_snd (hs : store.Reachable) :
    (r.statement e store).2 = store.compileAll (r.outcome e 0).patterns := by
  rw [r.statement_eq e hs.consistent]

lemma contains_statement_iff (hs : store.Reachable) :
    (r.statement e store).2.contains pattern = true ↔
      store.contains pattern = true ∨ r.LooksUp 0 e pattern ∧ Compiles pattern := by
  simp only [← TemplateStore.mem_kept, statement_snd hs, TemplateStore.mem_kept_compileAll,
    mem_patterns_outcome]

/-- A statement comes to all visited places, and all their patterns compile. -/
lemma looksUp_iff_of_ok (hs : store.Reachable) (ok : ∃ s, (r.statement e store).1 = .ok s) :
    r.LooksUp 0 e pattern ∧ Compiles pattern ↔
      ∃ place s, Visits r.dialect e place s ∧ s.pattern? r.dialect = some pattern := by
  have permitted := (exists_statement_iff hs).1 ok
  constructor
  · intro h
    obtain ⟨⟨place, s, visited, hp, -⟩, -⟩ := h
    exact ⟨place, s, visited, hp⟩
  · intro h
    obtain ⟨place, s, visited, hp⟩ := h
    obtain ⟨f, hf, own⟩ := Option.bind_eq_some_iff.1 hp
    obtain ⟨found, t, hfound, compiled⟩ := (permitted place s visited).compiles f hf
    obtain rfl := Option.some.inj (own.symm.trans hfound)
    -- nothing is violated anywhere, so nothing stands before the place
    have none := (r.forall_not_violates_iff 0 e).2 (by simpa using permitted)
    exact ⟨⟨place, s, visited, hp, reaches_of_not_violates none⟩, t, compiled⟩

lemma growsTo_statement (hs : store.Reachable) : store.GrowsTo (r.statement e store).2 := by
  rw [statement_snd hs]
  exact .compileAll store (r.outcome e 0).patterns

/-- A store that has everything the expression looks up stays as it is. -/
lemma statement_snd_eq_self (hs : store.Reachable)
    (known : ∀ pattern, r.LooksUp 0 e pattern → Compiles pattern → pattern ∈ store.kept) :
    (r.statement e store).2 = store := by
  rw [statement_snd hs]
  refine TemplateStore.compileAll_eq_self fun pattern mem => ?_
  by_cases compiles : Compiles pattern
  · exact .inl (known pattern ((r.mem_patterns_outcome e pattern 0).1 mem) compiles)
  · exact .inr compiles

/-- The second time an expression is rendered, nothing is compiled, whatever else was compiled in
between. -/
lemma statement_again (hs : store.Reachable) {calls : List Call} (keeps : .clear ∉ calls) :
    let later := (r.statement e store).2.runAll calls
    r.statement e later = ((r.statement e store).1, later) := by
  intro later
  have ha : (r.statement e store).2.Reachable := hs.statement r e
  have hl : later.Reachable := ha.runAll calls
  have same : (r.statement e later).1 = (r.statement e store).1 := by
    rw [hl.statement_fst, hs.statement_fst]
  have still : (r.statement e later).2 = later := by
    refine statement_snd_eq_self hl fun pattern looked compiles => ?_
    have kept := (contains_statement_iff hs).2 (.inr ⟨looked, compiles⟩)
    exact (GrowsTo.runAll ha keeps).kept_subset (TemplateStore.mem_kept.2 kept)
  exact Prod.ext same still

lemma statement_of_no_operator (hs : store.Reachable)
    (none : ∀ place s, Visits r.dialect e place s → s.operator? = none) :
    (r.statement e store).2 = store := by
  refine statement_snd_eq_self hs fun pattern looked _ => ?_
  obtain ⟨place, s, visited, hp, -⟩ := looked
  simp [Expr.pattern?, none place s visited] at hp

/-- Whatever is in the store, the result is the same. A statement leaves exactly the patterns of the
visited operators behind, and a failed one those that it came to and that compile. Entries stay, and
each new pattern is compiled once. A second time nothing changes; without operators, nothing ever
does. -/
theorem statement_transparent (r : Renderer) (e : Expr) {store : TemplateStore}
    (hs : store.Reachable) :
    let after := (r.statement e store).2
    (∀ other : TemplateStore, other.Reachable →
      (r.statement e other).1 = (r.statement e store).1) ∧
    ((∃ s, (r.statement e store).1 = .ok s) → ∀ pattern, after.contains pattern = true ↔
      store.contains pattern = true ∨
        ∃ place s, Visits r.dialect e place s ∧ s.pattern? r.dialect = some pattern) ∧
    (∀ pattern, after.contains pattern = true ↔
      store.contains pattern = true ∨ r.LooksUp 0 e pattern ∧ Compiles pattern) ∧
    (∃ new : Finset String,
      (∀ pattern, pattern ∈ new ↔ after.contains pattern = true ∧ ¬store.contains pattern = true) ∧
        after.compiled = store.compiled + new.card ∧
          after.compilations = store.compilations + .ofNat new.card) ∧
    (∀ pattern handle, store.find? pattern = some handle → after.find? pattern = some handle) ∧
    (∀ calls, .clear ∉ calls →
      r.statement e (after.runAll calls) = ((r.statement e store).1, after.runAll calls)) ∧
    ((∀ place s, Visits r.dialect e place s → s.operator? = none) → after = store) := by
  intro after
  have grows : store.GrowsTo after := growsTo_statement hs
  refine ⟨fun other ho => ?_, fun ok pattern => ?_, fun pattern => contains_statement_iff hs,
    ⟨after.kept \ store.kept, fun pattern => ?_, grows.compiled_eq, ?_⟩, grows.keeps,
    fun calls keeps => statement_again hs keeps, statement_of_no_operator hs⟩
  · rw [ho.statement_fst, hs.statement_fst]
  · rw [contains_statement_iff hs, looksUp_iff_of_ok hs ok]
  · rw [Finset.mem_sdiff, TemplateStore.mem_kept, TemplateStore.mem_kept]
  · rw [TemplateStore.compilations, grows.compiled_eq, UInt64.ofNat_add]
    rfl

/-- One of two patterns is there already; the other one is compiled, and only once. -/
theorem statement_transparent_half_known :
    let table := (PatternTable.empty.add "NOT" "not {0}").add "LOWER" "lower({0})"
    let r : Renderer := ⟨table.byName, {}⟩
    let lower := Expr.operation .string Builtin.lower.toOperator [.path .string ⟨["Name"]⟩]
    let e := Expr.operation .boolean Builtin.not.toOperator [lower]
    let store := (TemplateStore.compile "not {0}" (.empty 0)).2
    let after := (r.statement e store).2
    store.Reachable ∧ TemplateStore.Reachable (.empty 1) ∧
      (r.statement e (.empty 1)).1 = .ok ⟨"not lower(Name)", []⟩ ∧
      after.contains "lower({0})" = true ∧
      r.statement e (after.runAll [.compile "{0}"]) =
        (.ok ⟨"not lower(Name)", []⟩, after.runAll [.compile "{0}"]) := by
  intro table r lower e store after
  have hs : store.Reachable := .compile "not {0}" (.empty 0)
  have he : TemplateStore.Reachable (.empty 1) := .empty 1
  have ok : (r.statement e store).1 = .ok ⟨"not lower(Name)", []⟩ := by decide +kernel
  have template : e.template? r.dialect =
      some ⟨"not {0}", [⟨.text "not ", ⟨0, 4⟩⟩, ⟨.argument 0 .keep, ⟨4, 7⟩⟩]⟩ := by
    decide +kernel
  have visited : Visits r.dialect e [1] lower := .arg template rfl rfl (.root lower)
  obtain ⟨same, adds, -, -, -, again, -⟩ := r.statement_transparent e hs
  refine ⟨hs, he, (same _ he).trans ok, (adds ⟨_, ok⟩ _).2 (.inr ⟨[1], lower, visited, rfl⟩), ?_⟩
  rw [← ok]
  exact again [.compile "{0}"] (by simp)

end Renderer

end QueryDialect
