import QueryDialect.Text.Quoted
import QueryDialect.Text.Span

/-!
# Errors of rendering

A rendering fails for one of four kinds of reason. An error can carry the span of the placeholder
it arose at, and the text of an underlying cause.
-/
namespace QueryDialect

open Text

inductive FaultKind where
  | indexOutOfRange | missingTemplate | depthLimit | host
  deriving DecidableEq, Repr

/-- Who asked for an argument that is not there. -/
inductive ArgumentOwner where
  | unnamed
  | template (source : String)
  | operator (name : String)
  deriving DecidableEq, Repr

/-- What went wrong. The user of the library can also state a fault in its own words. -/
inductive RenderingFault where
  | indexOutOfRange (index count : Nat) (owner : ArgumentOwner)
  | missingTemplate (operator : String)
  | depthLimit (limit : Nat)
  | host (text : String)
  | stated (kind : FaultKind) (text : String)
  deriving DecidableEq, Repr

namespace RenderingFault

def kind : RenderingFault → FaultKind
  | indexOutOfRange .. => .indexOutOfRange
  | missingTemplate _ => .missingTemplate
  | depthLimit _ => .depthLimit
  | host _ => .host
  | stated kind _ => kind

def ownerText : ArgumentOwner → String
  | .unnamed => ""
  | .template source => s!" in template {quote source}"
  | .operator name => s!" of operator {name}"

def message : RenderingFault → String
  | indexOutOfRange index count owner =>
    s!"argument index {index} out of range for {count} argument(s){ownerText owner}"
  | missingTemplate operator => s!"no template registered for operator {operator}"
  | depthLimit limit => s!"expression nesting exceeds the limit of {limit}"
  | host text | stated _ text => text

end RenderingFault

structure RenderingError where
  fault : RenderingFault
  span : Option Span := none
  cause : Option String := none
  deriving DecidableEq, Repr

namespace RenderingError

def kind (e : RenderingError) : FaultKind := e.fault.kind

def message (e : RenderingError) : String := e.fault.message

def withSpan (e : RenderingError) (span : Span) : RenderingError := { e with span := some span }

def withCause (e : RenderingError) (cause : String) : RenderingError := { e with cause := some cause }

end RenderingError

end QueryDialect
