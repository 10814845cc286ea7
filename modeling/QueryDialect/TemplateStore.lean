import QueryDialect.Template

/-!
# Template stores

A store compiles each pattern once and hands out the same template for it until it is cleared.
Failed patterns are not kept. Every compilation makes a template with an identity of its own.
-/
namespace QueryDialect

/-- A template as a store handed it out. Two handles are identical if they come from the same
compilation of the same store. -/
structure TemplateHandle where
  template : Template
  store : Nat
  number : Nat
  deriving DecidableEq, Repr

def TemplateHandle.identical (a b : TemplateHandle) : Bool :=
  a.store == b.store && a.number == b.number

structure TemplateStore where
  /-- Tells the store from other stores. -/
  identity : Nat
  /-- How many templates were compiled so far, dropped ones included. -/
  compiled : Nat
  entries : List (String × TemplateHandle)
  deriving DecidableEq, Repr

namespace TemplateStore

def empty (identity : Nat) : TemplateStore := ⟨identity, 0, []⟩

def find? (store : TemplateStore) (pattern : String) : Option TemplateHandle :=
  store.entries.lookup pattern

def contains (store : TemplateStore) (pattern : String) : Bool := (store.find? pattern).isSome

def size (store : TemplateStore) : Nat := store.entries.length

def isEmpty (store : TemplateStore) : Bool := store.entries.isEmpty

/-- The number of compilations, as a 64-bit counter shows it. -/
def compilations (store : TemplateStore) : UInt64 := .ofNat store.compiled

/-- Keeps a new template. -/
def insert (store : TemplateStore) (pattern : String) (template : Template) :
    TemplateHandle × TemplateStore :=
  let handle := ⟨template, store.identity, store.compiled⟩
  (handle, { store with
    compiled := store.compiled + 1
    entries := (pattern, handle) :: store.entries })

/-- The template of a pattern, compiled only if it is not there yet. -/
def compile (pattern : String) : ExceptT PatternError (StateM TemplateStore) TemplateHandle :=
  fun store =>
    match store.find? pattern with
    | some handle => (.ok handle, store)
    | none =>
      match Template.compile pattern with
      | .error e => (.error e, store)
      | .ok template =>
        let (handle, store) := store.insert pattern template
        (.ok handle, store)

/-- Forgets every template; handles that were given out stay valid. -/
def clear (store : TemplateStore) : TemplateStore := { store with entries := [] }

/-- An empty store that takes the place of this one. -/
def successor (store : TemplateStore) : TemplateStore := empty (store.identity + 1)

def describe (store : TemplateStore) : String :=
  "TemplateFactory \x7b " ++ s!"patterns: {store.size}, compilations: {store.compilations.toNat}" ++
    " \x7d"

@[simp] theorem find?_empty (identity : Nat) (pattern : String) :
    (empty identity).find? pattern = none := rfl

@[simp] theorem find?_clear (store : TemplateStore) (pattern : String) :
    store.clear.find? pattern = none := rfl

theorem find?_insert (store : TemplateStore) (pattern key : String) (template : Template) :
    (store.insert pattern template).2.find? key =
      if key = pattern then some (store.insert pattern template).1 else store.find? key := by
  by_cases h : key = pattern
  · simp [insert, find?, h]
  · have differs : (key == pattern) = false := by simpa using h
    simp [insert, find?, List.lookup_cons, h, differs]

@[simp] theorem size_insert (store : TemplateStore) (pattern : String) (template : Template) :
    (store.insert pattern template).2.size = store.size + 1 := rfl

/-- A pattern that is there is not compiled again. -/
theorem compile_of_find? {store : TemplateStore} {pattern : String} {handle : TemplateHandle}
    (h : store.find? pattern = some handle) : compile pattern store = (.ok handle, store) := by
  simp [compile, h]

/-- A pattern that cannot be compiled leaves the store as it is. -/
theorem compile_of_error {store : TemplateStore} {pattern : String} {e : PatternError}
    (absent : store.find? pattern = none) (h : Template.compile pattern = .error e) :
    compile pattern store = (.error e, store) := by
  simp [compile, absent, h]

theorem compile_of_ok {store : TemplateStore} {pattern : String} {template : Template}
    (absent : store.find? pattern = none) (h : Template.compile pattern = .ok template) :
    compile pattern store =
      (.ok (store.insert pattern template).1, (store.insert pattern template).2) := by
  simp [compile, absent, h]

end TemplateStore

end QueryDialect
