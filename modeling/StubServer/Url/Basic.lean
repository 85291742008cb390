import StubServer.Bindings
import StubServer.Url.Constraint

/-!
# Route templates

A template is a list of segments. A segment is a literal, a parameter that takes a whole segment of
a path (the last one may take the rest of it), or literals and parameters mixed.
-/

namespace StubServer

namespace Url

/-- What becomes of a parameter that the path has no segment for. -/
inductive Presence where
  | required
  | optional
  | defaulted (value : String)
deriving DecidableEq

structure Parameter where
  name : String
  /-- The parameter takes the rest of the path. -/
  catchAll : Bool
  presence : Presence
  constraints : List Constraint
deriving DecidableEq

/-- A plain parameter takes one segment, which has to be there. -/
def Parameter.isPlain (p : Parameter) : Bool :=
  !p.catchAll && p.presence = .required

def Parameter.accepts (p : Parameter) (value : String) : Bool :=
  p.constraints.all fun k => k.accepts value

inductive Part where
  | literal (text : String)
  | parameter (p : Parameter)
deriving DecidableEq

def Part.parameter? : Part → Option Parameter
  | literal _ => none
  | parameter p => some p

inductive Segment where
  /-- A text in lower case. -/
  | literal (lowered : String)
  | parameter (p : Parameter)
  /-- Two parts or more, the parameters among them plain. -/
  | complex (parts : List Part)

def Segment.parameters : Segment → List Parameter
  | literal _ => []
  | parameter p => [p]
  | complex parts => parts.filterMap Part.parameter?

/-- A segment that takes the rest of the path. -/
def Segment.catchAll? : Segment → Option Parameter
  | parameter p => if p.catchAll then some p else none
  | _ => none

structure Template where
  text : String
  segments : List Segment

inductive TemplateError where
  | unbalancedBraces (template : String)
  | emptyParameterName (template : String)
  | duplicateParameter (name : String)
  | unknownConstraint (name : String)
  | invalidConstraint (constraint : String) (fault : ConstraintFault)
  | catchAllNotLast (name : String)
  | optionalWithDefault (name : String)
  | complexSegmentParameter (name : String)
deriving DecidableEq

def TemplateError.message : TemplateError → String
  | unbalancedBraces template => s!"unbalanced braces in template '{template}'"
  | emptyParameterName template => s!"parameter name can't be empty in template '{template}'"
  | duplicateParameter name => s!"parameter '{name}' is declared twice"
  | unknownConstraint name => s!"unknown route constraint '{name}'"
  | invalidConstraint constraint fault =>
    s!"invalid route constraint '{constraint}': {fault.message}"
  | catchAllNotLast name => s!"catch-all parameter '{name}' must be the last segment"
  | optionalWithDefault name =>
    s!"parameter '{name}' can't be both optional and have a default value"
  | complexSegmentParameter name =>
    s!"parameter '{name}' in a complex segment can't be optional, defaulted or catch-all"

end Url

end StubServer
