import Mathlib.Tactic.Common
import QueryDialect.TemplateStore

/-!
# Consistent stores

A store is consistent if every template it keeps is the one its pattern compiles to. Every operation
keeps this, and a consistent store gives the same answer as compiling afresh.
-/
namespace QueryDialect.TemplateStore

def Consistent (store : TemplateStore) : Prop :=
  ∀ pattern handle, store.find? pattern = some handle →
    Template.compile pattern = .ok handle.template

lemma consistent_empty (identity : Nat) : (empty identity).Consistent := by
  intro pattern handle h
  simp at h

lemma Consistent.clear (store : TemplateStore) : store.clear.Consistent := by
  intro pattern handle h
  simp at h

lemma Consistent.insert {store : TemplateStore} {pattern : String} {template : Template}
    (h : store.Consistent) (ok : Template.compile pattern = .ok template) :
    (store.insert pattern template).2.Consistent := by
  intro key handle found
  rw [find?_insert] at found
  split_ifs at found with same
  · obtain rfl := Option.some.inj found
    rw [same, ok]
    rfl
  · exact h key handle found

/-- What a consistent store gives out does not depend on what it keeps. -/
lemma Consistent.compile_result {store : TemplateStore} (h : store.Consistent) (pattern : String) :
    (compile pattern store).1.map TemplateHandle.template = Template.compile pattern := by
  cases found : store.find? pattern with
  | some handle =>
    rw [compile_of_find? found, h pattern handle found]
    rfl
  | none =>
    cases fresh : Template.compile pattern with
    | error e => rw [compile_of_error found fresh]; rfl
    | ok template => rw [compile_of_ok found fresh]; rfl

lemma Consistent.compile_eq_error_iff {store : TemplateStore} (h : store.Consistent)
    {pattern : String} {e : PatternError} :
    (TemplateStore.compile pattern store).1 = .error e ↔ Template.compile pattern = .error e := by
  rw [← h.compile_result pattern]
  cases TemplateStore.compile pattern store with
  | mk result after => cases result <;> simp [Except.map]

lemma Consistent.compile {store : TemplateStore} (h : store.Consistent) (pattern : String) :
    (compile pattern store).2.Consistent := by
  cases found : store.find? pattern with
  | some handle => rwa [compile_of_find? found]
  | none =>
    cases fresh : Template.compile pattern with
    | error e => rwa [compile_of_error found fresh]
    | ok template =>
      rw [compile_of_ok found fresh]
      exact h.insert fresh

/-- The store after some patterns were asked for, one after another. -/
def compileAll (store : TemplateStore) (patterns : List String) : TemplateStore :=
  patterns.foldl (fun store pattern => (TemplateStore.compile pattern store).2) store

@[simp] lemma compileAll_nil (store : TemplateStore) : store.compileAll [] = store := rfl

lemma compileAll_append (store : TemplateStore) (patterns more : List String) :
    store.compileAll (patterns ++ more) = (store.compileAll patterns).compileAll more := by
  simp [compileAll]

lemma Consistent.compileAll {store : TemplateStore} (h : store.Consistent) (patterns : List String) :
    (store.compileAll patterns).Consistent := by
  induction patterns generalizing store with
  | nil => exact h
  | cons pattern rest ih => exact ih (h.compile pattern)

end QueryDialect.TemplateStore
