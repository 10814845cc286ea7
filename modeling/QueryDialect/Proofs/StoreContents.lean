import Mathlib.Data.Finset.Card
import QueryDialect.Proofs.StoreConsistency

/-!
# What a store keeps

Compiling a pattern either leaves the store as it is or adds this one pattern to it, and the second
happens exactly if the pattern is new and well-formed. So between two clearings a store only grows,
by one pattern for each compilation.
-/
namespace QueryDialect

/-- The pattern can be compiled. -/
def Template.Compiles (pattern : String) : Prop := ∃ t, Template.compile pattern = .ok t

namespace TemplateStore

open Template (Compiles)

variable {store : TemplateStore} {pattern key : String} {patterns : List String}

/-- The patterns that the store has a template for. -/
def kept (store : TemplateStore) : Finset String := (store.entries.map Prod.fst).toFinset

lemma mem_kept : pattern ∈ store.kept ↔ store.contains pattern = true := by
  rw [kept, List.mem_toFinset, List.mem_map, contains, find?, List.lookup_isSome_iff]
  simp only [beq_iff_eq]
  exact exists_congr fun entry => and_congr_right fun _ => eq_comm

lemma mem_kept_of_find? {handle : TemplateHandle} (h : store.find? pattern = some handle) :
    pattern ∈ store.kept := by
  rw [mem_kept, contains, h]
  rfl

@[simp] lemma kept_empty (identity : Nat) : (empty identity).kept = ∅ := rfl

@[simp] lemma kept_clear (store : TemplateStore) : store.clear.kept = ∅ := rfl

@[simp] lemma kept_insert (store : TemplateStore) (pattern : String) (t : Template) :
    (store.insert pattern t).2.kept = Insert.insert pattern store.kept := by
  simp [kept, TemplateStore.insert]

@[simp] lemma compiled_insert (store : TemplateStore) (pattern : String) (t : Template) :
    (store.insert pattern t).2.compiled = store.compiled + 1 := rfl

@[simp] lemma compiled_clear (store : TemplateStore) : store.clear.compiled = store.compiled := rfl

@[simp] lemma size_clear (store : TemplateStore) : store.clear.size = 0 := rfl

lemma isEmpty_iff_kept : store.isEmpty = true ↔ store.kept = ∅ := by
  simp [isEmpty, kept]

/-- Everything that compiling a pattern can do to a store. -/
lemma compile_cases (store : TemplateStore) (pattern : String) :
    (pattern ∈ store.kept ∨ ¬Compiles pattern) ∧ (compile pattern store).2 = store ∨
      pattern ∉ store.kept ∧ ∃ t, Template.compile pattern = .ok t ∧
        (compile pattern store).2 = (store.insert pattern t).2 := by
  cases found : store.find? pattern with
  | some handle =>
    rw [compile_of_find? found]
    exact .inl ⟨.inl (mem_kept_of_find? found), rfl⟩
  | none =>
    have absent : pattern ∉ store.kept := by simp [mem_kept, contains, found]
    cases fresh : Template.compile pattern with
    | error e =>
      rw [compile_of_error found fresh]
      exact .inl ⟨.inr (by simp [Compiles, fresh]), rfl⟩
    | ok t =>
      rw [compile_of_ok found fresh]
      exact .inr ⟨absent, t, rfl, rfl⟩

lemma compile_eq_self (h : pattern ∈ store.kept ∨ ¬Compiles pattern) :
    (compile pattern store).2 = store := by
  rcases compile_cases store pattern with ⟨-, same⟩ | ⟨absent, t, compiled, -⟩
  · exact same
  · exact absurd h (not_or.2 ⟨absent, not_not.2 ⟨t, compiled⟩⟩)

lemma mem_kept_compile :
    key ∈ (compile pattern store).2.kept ↔ key ∈ store.kept ∨ key = pattern ∧ Compiles pattern := by
  rcases compile_cases store pattern with ⟨known, same⟩ | ⟨absent, t, compiled, same⟩
  · rw [same]
    refine ⟨.inl, fun h => h.elim id ?_⟩
    rintro ⟨rfl, compiles⟩
    exact known.resolve_right (not_not.2 compiles)
  · rw [same, kept_insert, Finset.mem_insert, or_comm]
    simp [Compiles, compiled]

lemma mem_kept_compileAll :
    key ∈ (store.compileAll patterns).kept ↔ key ∈ store.kept ∨ key ∈ patterns ∧ Compiles key := by
  induction patterns generalizing store with
  | nil => simp
  | cons pattern rest ih =>
    have hcons : store.compileAll (pattern :: rest) = (compile pattern store).2.compileAll rest := rfl
    rw [hcons, ih, mem_kept_compile, List.mem_cons]
    constructor
    · rintro ((kept | ⟨rfl, compiles⟩) | ⟨mem, compiles⟩)
      · exact .inl kept
      · exact .inr ⟨.inl rfl, compiles⟩
      · exact .inr ⟨.inr mem, compiles⟩
    · rintro (kept | ⟨rfl | mem, compiles⟩)
      · exact .inl (.inl kept)
      · exact .inl (.inr ⟨rfl, compiles⟩)
      · exact .inr ⟨mem, compiles⟩

lemma compileAll_eq_self (h : ∀ pattern ∈ patterns, pattern ∈ store.kept ∨ ¬Compiles pattern) :
    store.compileAll patterns = store := by
  induction patterns with
  | nil => rfl
  | cons pattern rest ih =>
    rw [List.forall_mem_cons] at h
    have hcons : store.compileAll (pattern :: rest) = (compile pattern store).2.compileAll rest := rfl
    rw [hcons, compile_eq_self h.1, ih h.2]

/-- How compiling changes a store: every entry stays, and each compilation adds a new one. -/
structure GrowsTo (before after : TemplateStore) : Prop where
  keeps : ∀ pattern handle, before.find? pattern = some handle → after.find? pattern = some handle
  size_add : after.size + before.compiled = before.size + after.compiled
  card_add : after.kept.card + before.compiled = before.kept.card + after.compiled

namespace GrowsTo

variable {before middle after : TemplateStore}

lemma refl (store : TemplateStore) : store.GrowsTo store := ⟨fun _ _ => id, rfl, rfl⟩

lemma trans (h : before.GrowsTo middle) (h' : middle.GrowsTo after) : before.GrowsTo after := by
  refine ⟨fun pattern handle found => h'.keeps _ _ (h.keeps _ _ found), ?_, ?_⟩
  · have := h.size_add
    have := h'.size_add
    omega
  · have := h.card_add
    have := h'.card_add
    omega

lemma insert {t : Template} (absent : pattern ∉ store.kept) :
    store.GrowsTo (store.insert pattern t).2 := by
  refine ⟨fun key handle found => ?_, ?_, ?_⟩
  · have differs : key ≠ pattern := by
      rintro rfl
      exact absent (mem_kept_of_find? found)
    rw [find?_insert, if_neg differs, found]
  · rw [size_insert, compiled_insert]
    omega
  · rw [kept_insert, Finset.card_insert_of_notMem absent, compiled_insert]
    omega

lemma compile (store : TemplateStore) (pattern : String) :
    store.GrowsTo (compile pattern store).2 := by
  rcases compile_cases store pattern with ⟨-, same⟩ | ⟨absent, t, -, same⟩
  · rw [same]
    exact refl store
  · rw [same]
    exact insert absent

lemma compileAll (store : TemplateStore) (patterns : List String) :
    store.GrowsTo (store.compileAll patterns) := by
  induction patterns generalizing store with
  | nil => exact refl store
  | cons pattern rest ih => exact (compile store pattern).trans (ih _)

lemma kept_subset (h : before.GrowsTo after) : before.kept ⊆ after.kept := by
  intro pattern mem
  obtain ⟨handle, found⟩ := Option.isSome_iff_exists.1 (mem_kept.1 mem)
  exact mem_kept_of_find? (h.keeps pattern handle found)

lemma compiled_eq (h : before.GrowsTo after) :
    after.compiled = before.compiled + (after.kept \ before.kept).card := by
  have := Finset.card_sdiff_add_card_eq_card h.kept_subset
  have := h.card_add
  omega

end GrowsTo

/-- No pattern is kept twice. -/
def Distinct (store : TemplateStore) : Prop := store.size = store.kept.card

lemma distinct_empty (identity : Nat) : (empty identity).Distinct := rfl

lemma Distinct.clear (store : TemplateStore) : store.clear.Distinct := rfl

lemma Distinct.growsTo {before after : TemplateStore} (h : before.Distinct)
    (grows : before.GrowsTo after) : after.Distinct := by
  unfold Distinct at *
  have := grows.size_add
  have := grows.card_add
  omega

end TemplateStore

end QueryDialect
