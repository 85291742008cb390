import StubServer.Draws
import StubServer.Http.View
import StubServer.Template.Arguments
import StubServer.Template.Scopes
import StubServer.Time.Instant

/-!
# Steps of a rendering

What a rendering goes by and what it changes. A step may fail, and what it changed before stays
changed, but a scope that it opened is closed again.
-/

namespace StubServer

namespace Template

/-- What a rendering goes by: the time, and the request if there is one. Without a request the
functions on it are unknown. -/
structure Setting where
  now : Time.Instant
  request : Option Http.View

/-- What a rendering has changed so far: the variables, the words drawn and the number of times
that it read the request. -/
structure RenderState where
  scopes : Scopes := {}
  draws : Draws
  accesses : Nat := 0

/-- A step of a rendering. A failing step has a state too. -/
abbrev Rendering (α : Type) := EStateM EvalError RenderState α

namespace Rendering

/-- The second step starts from the state that the first one leaves. -/
theorem bind_eq {α β : Type} (m : Rendering α) (f : α → Rendering β) (s : RenderState) :
    (m >>= f) s =
      match m s with
      | .ok a s => f a s
      | .error e s => .error e s := by
  change EStateM.bind m f s = _
  unfold EStateM.bind
  cases m s <;> rfl

theorem map_eq {α β : Type} (f : α → β) (m : Rendering α) (s : RenderState) :
    (f <$> m) s =
      match m s with
      | .ok a s => .ok (f a) s
      | .error e s => .error e s := by
  change EStateM.map f m s = _
  unfold EStateM.map
  cases m s <;> rfl

/-- Draws with the words of the rendering. -/
def random {α : Type} (r : Random α) : Rendering α := fun s =>
  match r s.draws with
  | some (a, draws) => .ok a { s with draws }
  | none => .error .exhaustedDraws s

def answer {α : Type} (function : String) (a : Answer α) : Rendering α :=
  match a with
  | .ok v => pure v
  | .error fault => throw (.invalidArguments function fault)

/-- Runs a step with a scope of its own, which ends however the step does. -/
def inScope {α : Type} (step : Rendering α) : Rendering α := fun s =>
  match step { s with scopes := s.scopes.push } with
  | .ok a s => .ok a { s with scopes := s.scopes.pop }
  | .error e s => .error e { s with scopes := s.scopes.pop }

def setVariable (name : String) (v : Value) : Rendering Unit :=
  modify fun s => { s with scopes := s.scopes.set name v }

def valueOf (name : String) : Rendering Value := do
  match (← get).scopes.get? name with
  | some v => return v
  | none => throw (.undefinedVariable name)

theorem valueOf_eq (name : String) (s : RenderState) :
    valueOf name s =
      match s.scopes.get? name with
      | some v => .ok v s
      | none => .error (.undefinedVariable name) s := by
  change (match s.scopes.get? name with
    | some v => (pure v : Rendering Value)
    | none => throw (EvalError.undefinedVariable name)) s = _
  cases s.scopes.get? name <;> rfl

def countAccess : Rendering Unit :=
  modify fun s => { s with accesses := s.accesses + 1 }

end Rendering

end Template

end StubServer
