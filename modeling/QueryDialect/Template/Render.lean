import QueryDialect.RenderingError
import QueryDialect.Template

/-!
# Rendering a template

The elements are rendered in order. A text stands for itself; an argument is looked up and turned
into text by the caller, which may have effects of its own and may fail. Nothing after a failure is
rendered, and rendered text is not read again.
-/
namespace QueryDialect

namespace Template

variable {α : Type} {m : Type → Type} [Monad m]

/-- The error of a placeholder that refers past the end of the arguments. -/
def missingArgument (t : Template) (index count : Nat) (span : Text.Span) : RenderingError :=
  { fault := .indexOutOfRange index count (.template t.source), span := some span }

def renderElement (t : Template) (args : List α) (raise : RenderingError → m String)
    (textOf : α → TextForm → m String) (element : Element) : m String :=
  match element.content with
  | .text verbatim => pure verbatim
  | .argument index modifier =>
    match args[index]? with
    | none => raise (t.missingArgument index args.length element.span)
    | some arg => do
      let text ← textOf arg modifier.form
      return modifier.apply text

/-- Renders with any effects; `raise` is how they report an error. -/
def renderWith (t : Template) (args : List α) (raise : RenderingError → m String)
    (textOf : α → TextForm → m String) : m String := do
  let parts ← t.elements.mapM (t.renderElement args raise textOf)
  return String.join parts

/-- Renders with a way to turn arguments into text that always succeeds. -/
def render (t : Template) (args : List α) (textOf : α → TextForm → String) :
    Except RenderingError String :=
  t.renderWith args .error fun arg form => .ok (textOf arg form)

end Template

end QueryDialect
