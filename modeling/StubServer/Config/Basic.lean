import StubServer.Http.Methods
import StubServer.Rule.Basic
import StubServer.Url.Basic

/-!
# Configurations

A configuration holds named environments, of which one is active and supplies the routes. A route
has candidate responses, each guarded by rules.
-/

namespace StubServer

namespace Config

structure Header where
  key : String
  value : String := ""
deriving DecidableEq

structure Response where
  id : Option String := none
  name : String := ""
  description : Option String := none
  statusCode : Nat := 200
  /-- The source of the body's template. -/
  body : String := ""
  headers : List Header := []
  /-- All of them have to hold for the response to be picked. -/
  rules : List Rule := []
  /-- The time to wait before answering, in milliseconds. -/
  delay : Nat := 0
  /-- The body is served as it is. -/
  disableTemplating : Bool := false
  /-- An error in the template is answered as such, and not by serving the body as it is. -/
  strictTemplateErrors : Bool := false
  /-- A body that does not depend on the request may be cached. -/
  allowResponseCaching : Bool := false
deriving Inhabited

namespace Response

def withHeader (r : Response) (key value : String) : Response :=
  { r with headers := r.headers ++ [{ key, value }] }

def withRule (r : Response) (rule : Rule) : Response :=
  { r with rules := r.rules ++ [rule] }

end Response

/-- How a route picks among the responses whose rules hold. -/
inductive Strategy where
  /-- The first in their order. -/
  | first
  /-- Any, each as likely as the others. -/
  | random
  /-- One after the other, again and again. -/
  | sequence
deriving DecidableEq

def Strategy.name : Strategy → String
  | first => "Default"
  | random => "Random"
  | sequence => "Sequence"

structure Route where
  id : Option String := none
  /-- The text of the template that paths are matched with. -/
  urlTemplate : String
  methods : Http.MethodSet := .empty
  responses : List Response := []
  strategy : Strategy := .first
  enabled : Bool := true
deriving Inhabited

namespace Route

def withStrategy (r : Route) (strategy : Strategy) : Route :=
  { r with strategy }

def withResponse (r : Route) (response : Response) : Route :=
  { r with responses := r.responses ++ [response] }

/-- What tells a route from others when its state is kept: its identifier, or its methods and
template. -/
def key (r : Route) : String :=
  r.id.getD s!"{r.methods.describe} {r.urlTemplate}"

end Route

structure Environment where
  id : Option String := none
  name : String := ""
  isActive : Bool := false
  routes : List Route := []
deriving Inhabited

structure Settings where
  logMatches : Bool := true
  logUnmatched : Bool := true
  /-- The content type of a response that sets none. -/
  defaultContentType : String := "application/json"
deriving Inhabited

end Config

structure Configuration where
  environments : List Config.Environment := []
  settings : Config.Settings := {}
deriving Inhabited

namespace Configuration

/-- The first environment that is marked active; without one, the first of all. -/
def activeEnvironment (c : Configuration) : Option Config.Environment :=
  c.environments.find? (·.isActive) <|> c.environments.head?

def activeRoutes (c : Configuration) : List Config.Route :=
  c.activeEnvironment.elim [] (·.routes)

end Configuration

end StubServer
