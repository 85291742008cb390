import StubServer.Config.Basic
import StubServer.Url.Read

/-!
# Valid configurations

What a configuration has to be before it is served. The first thing that is wrong is reported,
with the place at which it was found.
-/

namespace StubServer

namespace Config

inductive ResponseFault where
  | statusCode (code : Nat)
  | emptyHeaderKey
deriving DecidableEq

def ResponseFault.message : ResponseFault → String
  | statusCode code => s!"Invalid status code: {code}"
  | emptyHeaderKey => "Response header key cannot be empty"

def Response.validate (r : Response) : Except ResponseFault Unit :=
  if ¬ (100 ≤ r.statusCode ∧ r.statusCode ≤ 599) then .error (.statusCode r.statusCode)
  else if r.headers.any fun h => Text.isAllBlank h.key then .error .emptyHeaderKey
  else .ok ()

inductive RouteFault where
  | emptyTemplate
  | template (text : String) (e : Url.TemplateError)
  | noMethod (template : String)
  | response (index : Nat) (fault : ResponseFault)
deriving DecidableEq

def RouteFault.message : RouteFault → String
  | emptyTemplate => "URL template cannot be empty"
  | template text e => s!"Invalid URL template '{text}': {e.message}"
  | noMethod text => s!"Route '{text}' has no HTTP method"
  | response index fault => s!"Response {index}: {fault.message}"

/-- Checks the elements of a list in order, the first of them having the given index. -/
def validateFrom {α ε δ : Type} (check : α → Except ε Unit) (locate : Nat → ε → δ) (index : Nat) :
    List α → Except δ Unit
  | [] => .ok ()
  | a :: as =>
    match check a with
    | .error e => .error (locate index e)
    | .ok () => validateFrom check locate (index + 1) as

def Route.validate (r : Route) : Except RouteFault Unit :=
  if Text.isAllBlank r.urlTemplate then .error .emptyTemplate
  else
    match Url.Template.read r.urlTemplate with
    | .error e => .error (.template r.urlTemplate e)
    | .ok _ =>
      if r.methods.isEmpty then .error (.noMethod r.urlTemplate)
      else validateFrom Response.validate .response 0 r.responses

end Config

inductive ConfigError where
  | tooManyActive (count : Nat)
  | route (environment : String) (index : Nat) (fault : Config.RouteFault)
deriving DecidableEq

def ConfigError.message : ConfigError → String
  | tooManyActive count => s!"At most one environment can be active, found {count}"
  | route environment index fault => s!"Environment '{environment}', route {index}: {fault.message}"

namespace Configuration

def validateEnvironments : List Config.Environment → Except ConfigError Unit
  | [] => .ok ()
  | e :: es => do
    Config.validateFrom Config.Route.validate (.route e.name) 0 e.routes
    validateEnvironments es

def validate (c : Configuration) : Except ConfigError Unit :=
  let active := c.environments.countP (·.isActive)
  if 1 < active then .error (.tooManyActive active)
  else validateEnvironments c.environments

end Configuration

end StubServer
