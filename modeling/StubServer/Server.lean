import StubServer.Config.Document
import StubServer.Config.Validate
import StubServer.Http.Request
import StubServer.Http.Response
import StubServer.Store.Select
import StubServer.Template.Render

/-!
# The server

The server answers requests from the routes of the active environment and can be given another
configuration at any time. It counts what it answers.
-/

namespace StubServer

/-- The body made of a response's template. -/
structure RenderedBody where
  body : String
  usedRequest : Bool

/-- A template that a response with strict templates cannot do without. -/
inductive BodyError where
  | compile (e : Template.CompileError)
  | render (e : Template.EvalError)
deriving DecidableEq

def BodyError.message : BodyError → String
  | compile e => e.message
  | render e => e.message

namespace Config.Response

/-- The body as it is written in the configuration. -/
def rawBody (r : Config.Response) : RenderedBody := ⟨r.body, false⟩

/-- Renders the body for a request. When templates are not strict, the body as it is written takes
the place of one that fails. -/
def renderBody (r : Config.Response) (now : Time.Instant) (view : Http.View) (draws : Draws) :
    Except BodyError RenderedBody × Draws :=
  if r.body = "" || r.disableTemplating then (.ok r.rawBody, draws)
  else
    match Template.compile r.body r.strictTemplateErrors with
    | .error e => (.error (.compile e), draws)
    | .ok (.static _) => (.ok r.rawBody, draws)
    | .ok (.nodes nodes) =>
      let rendered := (Template.Compiled.nodes nodes).run ⟨now, some view⟩ draws
      match rendered.text with
      | .ok body => (.ok ⟨body, 0 < rendered.accesses⟩, rendered.draws)
      | .error e =>
        (if r.strictTemplateErrors then .error (.render e) else .ok r.rawBody, rendered.draws)

/-- The response with a body, its headers and a content type. -/
def build (r : Config.Response) (body : RenderedBody) (defaultContentType : String) :
    Http.Response :=
  let out : Http.Response :=
    { status := r.statusCode
      headers := r.headers.map fun h => (h.key, h.value)
      body := body.body
      tags := [.mocked]
      cacheable := r.allowResponseCaching && !body.usedRequest }
  if (out.header? "content-type").isSome then out
  else { out with headers := out.headers ++ [("Content-Type", defaultContentType)] }

/-- The headers of the configuration in their order, and behind them the type of the content exactly
if none of them has its name, in any case. -/
def headersWith (r : Config.Response) (contentType : String) : List (String × String) :=
  r.headers.map (fun h => (h.key, h.value)) ++
    if r.headers.any fun h => Text.sameName h.key "content-type" then []
    else [("Content-Type", contentType)]

theorem build_eq (r : Config.Response) (body : RenderedBody) (contentType : String) :
    r.build body contentType =
      { status := r.statusCode
        headers := r.headersWith contentType
        body := body.body
        tags := [.mocked]
        cacheable := r.allowResponseCaching && !body.usedRequest } := by
  unfold build headersWith
  simp only [Http.Response.isSome_header?, List.any_map, Function.comp_def]
  split <;> simp

/-- The answer that the response gives to a request. -/
def answer (r : Config.Response) (now : Time.Instant) (view : Http.View)
    (defaultContentType : String) (draws : Draws) : Http.Response × Draws :=
  match r.renderBody now view draws with
  | (.ok body, draws) => (r.build body defaultContentType, draws)
  | (.error e, draws) =>
    (.ofError 500 "template_error" e.message [.mocked, .templateError], draws)

end Config.Response

/-- The configuration in force, the routes of its active environment, and counts of the requests
answered. -/
structure Server where
  config : Configuration
  /-- The routes that requests are dispatched to. The store has its own copy of them. -/
  routes : List Config.Route
  store : Store
  total : UInt64 := 0
  matched : UInt64 := 0
  unmatched : UInt64 := 0
deriving Inhabited

namespace Server

def name : String := "mock-server"

def ofConfig (config : Configuration) : Server :=
  { config, routes := config.activeRoutes, store := .ofRoutes config.activeRoutes }

/-- Puts another configuration in force if it is valid. What was changed before an error stays
changed. -/
def configure (config : Configuration) : EStateM ConfigError Server Unit := do
  match config.validate with
  | .error e => throw e
  | .ok () =>
    let routes := config.activeRoutes
    modify fun s => { s with store := s.store.replaceRoutes routes }
    modify fun s => { s with config, routes }

/-- The path under which the environments are listed. -/
def environmentsPath : String := "/$$$SYSTEM$$$/environments"

def asksForEnvironments (r : Http.Request) : Bool :=
  Text.sameName r.method "GET" && Text.sameName r.path environmentsPath

def environmentsResponse (s : Server) : Http.Response :=
  .ofJson 200 (.array (s.config.environments.map Config.Environment.toJson)) [.system]

/-- The input of the rules that a view of a request makes. -/
def inputOf (v : Http.View) : RuleInput :=
  { headers := v.headers, query := v.query, routeParams := v.routeParams }

def notFound (message : String) : Http.Response :=
  .ofError 404 "not_found" message [.mocked, .notFound]

/-- A response of the configuration that was picked for a request. -/
structure Pick where
  response : Config.Response
  view : Http.View

/-- What the routes have for a request: a response, or why there is none. -/
def dispatch (routes : List Config.Route) (r : Http.Request) :
    StateT Store Random (Except String Pick) := do
  let found ← fun store => pure (Store.find routes r.path (.ofRequest r.method) store)
  match found with
  | none => return .error "No matching route found"
  | some found =>
    let view := r.view found.params
    match ← Store.select found.route (inputOf view) with
    | none => return .error "No response rules matched"
    | some selected => return .ok ⟨selected.response, view⟩

/-- A response and the milliseconds to wait before it is sent. -/
structure Answer where
  response : Http.Response
  delay : Nat := 0

/-- Answers a request. -/
def handle (now : Time.Instant) (r : Http.Request) : StateT Server Random Answer := fun s => do
  let s := { s with total := s.total + 1 }
  if asksForEnvironments r then return ({ response := s.environmentsResponse }, s)
  else
    let (picked, store) ← dispatch s.routes r s.store
    match picked with
    | .error message =>
      return ({ response := notFound message }, { s with store, unmatched := s.unmatched + 1 })
    | .ok pick =>
      let answer := pick.response.answer now pick.view s.config.settings.defaultContentType
      let response ← fun draws => some (answer draws)
      let s := { s with store, matched := s.matched + 1 }
      return ({ response, delay := pick.response.delay }, s)

end Server

end StubServer
