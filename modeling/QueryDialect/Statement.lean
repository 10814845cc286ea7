import QueryDialect.Dialect
import QueryDialect.Expr
import QueryDialect.Failure
import QueryDialect.Template.Render
import QueryDialect.TemplateStore

/-!
# Statements

A statement is the text of an expression in a dialect, together with the constants bound to its
markers in the order of the markers. An expression is rendered from its root: the pattern of each
operator is looked up, compiled in a template store and rendered over the arguments. Constants that
were bound before a failure stay bound, so a rendering can be followed by others.
-/
namespace QueryDialect

structure Statement where
  text : String
  constants : List Value
  deriving DecidableEq, Repr

structure RenderOptions where
  /-- Write constants as literals instead of binding them. -/
  inlineConstants : Bool := false
  /-- The text in place of a bound constant. -/
  marker : String := "?"
  /-- The greatest nesting of operators and templates, unlimited if absent. -/
  depthLimit : Option Nat := none
  deriving DecidableEq, Repr

/-- What a rendering has brought about so far. -/
structure Progress where
  store : TemplateStore
  /-- The bound constants, in the order of their markers. -/
  bound : List Value
  /-- How many templates are being rendered around the current place. -/
  depth : Nat
  deriving DecidableEq, Repr

namespace Progress

def start (store : TemplateStore) : Progress := ⟨store, [], 0⟩

end Progress

/-- A rendering step. The progress up to a failure is kept. -/
abbrev Rendering (α : Type) := ExceptT Failure (StateM Progress) α

structure Renderer where
  dialect : Dialect
  options : RenderOptions

namespace Renderer

def fail {α : Type} (error : RenderingError) : Rendering α := throw (.render error)

/-- Compiles a pattern in the store of the rendering. -/
def compile (pattern : String) : Rendering Template := fun p =>
  match TemplateStore.compile pattern p.store with
  | (.ok handle, store) => (.ok handle.template, { p with store })
  | (.error e, store) => (.error (.compile e), { p with store })

/-- Runs a step one level deeper and comes back up, also from a failure. -/
def nested {α : Type} (step : Rendering α) : Rendering α := fun p =>
  let (result, p) := step { p with depth := p.depth + 1 }
  (result, { p with depth := p.depth - 1 })

variable (r : Renderer)

def renderConstant (value : Value) : Rendering String :=
  if r.options.inlineConstants then pure value.literal
  else do
    modify fun p => { p with bound := p.bound ++ [value] }
    return r.options.marker

def templateFor (f : Operator) : Rendering Template :=
  match r.dialect f with
  | none => fail { fault := .missingTemplate f.name }
  | some pattern => compile pattern

/-- Renders a template one level deeper, unless that is past the limit. Its arguments are given as
the steps that render them. -/
def expand (t : Template) (args : List (TextForm → Rendering String)) : Rendering String := do
  match r.options.depthLimit with
  | some limit => if limit ≤ (← get).depth then fail { fault := .depthLimit limit }
  | none => pure ()
  nested (t.renderWith args fail fun step form => step form)

/-- An argument asked for its plain text has one if it is a leaf; else it is rendered as usual. -/
def renderArg (e : Expr) (usual : Rendering String) (form : TextForm) : Rendering String :=
  match form, e.plainText? with
  | .plain, some text => pure text
  | _, _ => usual

mutual

def renderExpr : Expr → Rendering String
  | .constant _ value => r.renderConstant value
  | .path _ path => pure path.display
  | .operation _ f args => do r.expand (← r.templateFor f) (renderArgs args)
  | .template _ t args => r.expand t (renderArgs args)

/-- The steps that render the arguments, none of them run yet. -/
def renderArgs : List Expr → List (TextForm → Rendering String)
  | [] => []
  | e :: es => renderArg e (renderExpr e) :: renderArgs es

end

theorem renderArgs_eq_map (args : List Expr) :
    r.renderArgs args = args.map fun e => renderArg e (r.renderExpr e) := by
  induction args with
  | nil => rw [renderArgs, List.map_nil]
  | cons e es ih => rw [renderArgs, ih, List.map_cons]

/-- Renders expressions one after another, whether or not the earlier ones succeed. -/
def renderEach : List Expr → Progress → List (Except Failure String) × Progress
  | [], p => ([], p)
  | e :: es, p =>
    let (result, p) := r.renderExpr e p
    let (results, p) := renderEach es p
    (result :: results, p)

/-- Renders an expression after whatever was rendered before, and gives the store back. -/
def finish (e : Expr) (p : Progress) : Except Failure Statement × TemplateStore :=
  match r.renderExpr e p with
  | (.ok text, p) => (.ok ⟨text, p.bound⟩, p.store)
  | (.error failure, p) => (.error failure, p.store)

/-- The statement of an expression. -/
def statement (e : Expr) (store : TemplateStore) : Except Failure Statement × TemplateStore :=
  r.finish e (.start store)

end Renderer

end QueryDialect
