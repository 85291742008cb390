import StubServer.Config.Basic
import StubServer.Url.Match
import StubServer.Url.Read

/-!
# The store of routes

The store holds the routes that are served, the templates read so far and the positions of the
routes that go through their responses in sequence. The templates are kept only to be read once:
what is found does not depend on them.
-/

namespace StubServer

structure Store where
  routes : List Config.Route := []
  /-- What came of reading a template; `none` for one that is wrong. -/
  matchers : Bindings (Option Url.Template) := .empty
  /-- The number of selections under a route's key. -/
  positions : Bindings UInt64 := .empty
deriving Inhabited

/-- A route that was found for a path, and the values its template captured. -/
structure Found where
  route : Config.Route
  params : Bindings String

namespace Store

def ofRoutes (routes : List Config.Route) : Store := { routes }

/-- Serves other routes from now on. Templates that are still in use stay, positions do not. -/
def replaceRoutes (s : Store) (routes : List Config.Route) : Store :=
  { routes
    matchers := s.matchers.keep fun template => routes.any fun r => r.urlTemplate = template
    positions := .empty }

/-- What comes of reading a template, from what is kept if it has been read before. -/
def matcher (template : String) : StateM Store (Option Url.Template) := do
  let s ← get
  match s.matchers.get? template with
  | some kept => return kept
  | none =>
    let read := (Url.Template.read template).toOption
    set { s with matchers := s.matchers.insert template read }
    return read

theorem matcher_eq (template : String) (s : Store) :
    matcher template s =
      match s.matchers.get? template with
      | some outcome => (outcome, s)
      | none =>
        ((Url.Template.read template).toOption,
          { s with
            matchers := s.matchers.insert template (Url.Template.read template).toOption }) := by
  simp only [matcher, bind, StateT.bind, get, getThe, MonadStateOf.get, StateT.get, pure]
  cases s.matchers.get? template <;> rfl

/-- The first of the routes that is enabled, serves one of the methods and matches the path. -/
def findPath (path : String) (methods : Http.MethodSet) :
    List Config.Route → StateM Store (Option Found)
  | [] => return none
  | r :: rs =>
    if r.enabled && r.methods.intersects methods then do
      match (← matcher r.urlTemplate).bind fun t => t.match? path with
      | some params => return some ⟨r, params⟩
      | none => findPath path methods rs
    else findPath path methods rs

theorem findPath_cons (path : String) (methods : Http.MethodSet) (r : Config.Route)
    (rs : List Config.Route) (s : Store) :
    findPath path methods (r :: rs) s =
      if r.enabled && r.methods.intersects methods then
        match matcher r.urlTemplate s with
        | (outcome, t) =>
          match outcome.bind fun template => template.match? path with
          | some params => (some ⟨r, params⟩, t)
          | none => findPath path methods rs t
      else findPath path methods rs s := by
  rw [findPath]
  split
  · simp only [bind, StateT.bind, pure]
    rcases matcher r.urlTemplate s with ⟨outcome, t⟩
    dsimp only
    cases outcome.bind fun template => template.match? path <;> rfl
  · rfl

/-- A path begins with a slash; one that does not gets one. -/
def rooted (path : String) : String :=
  if Text.startsWith path "/" then path else "/" ++ path

def find (routes : List Config.Route) (path : String) (methods : Http.MethodSet) :
    StateM Store (Option Found) :=
  findPath (rooted path) methods routes

/-- The first of the store's routes that serves a path. -/
def get? (path : String) (methods : Http.MethodSet) : StateM Store (Option Found) := do
  find (← get).routes path methods

end Store

end StubServer
