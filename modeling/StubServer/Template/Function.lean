import StubServer.Fake.Catalogue
import StubServer.Template.Function.Array
import StubServer.Template.Function.Math
import StubServer.Template.Function.Request
import StubServer.Template.Function.Text
import StubServer.Template.Rendering

/-!
# Functions of templates

The functions by their names, which are taken without regard to the case of ASCII letters, and
what a call does: it may draw, read the request or bind a variable.
-/

namespace StubServer

namespace Template

inductive Function where
  | text (f : TextFunction)
  | array (f : ArrayFunction)
  | pick (f : PickFunction)
  | math (f : MathFunction)
  /-- Made-up data by the path given as the first argument. -/
  | fake
  /-- Made-up data by a short name for a path. -/
  | fakeAt (path : String)
  | request (f : RequestFunction)
  /-- Binds a variable in the innermost scope. -/
  | assign

/-- Makes data of the kind at a path. -/
def makeUp (now : Time.Instant) (path : String) (args : Arguments) : Rendering Value :=
  match Fake.find? path with
  | none => throw (.unknownFakerPath path)
  | some (.plain draw) => .random draw.result
  | some (.ranged draw) => .random (draw args).result
  | some (.dated draw) => do
    match ← Rendering.random (draw now args) with
    | some t => return .string t.toIso
    | none => throw (.invalidArguments s!"faker '{path}'" .dateOutOfRange)

/-- Binds the name that is the first argument to the second one. -/
def assignment (args : Arguments) : Answer (String × Value) := do
  let name ← args.string 0
  if name = "" then .error .emptyVariableName else return (name, ← args.value 1)

/-- The families in which functions are looked up. -/
inductive Family where
  | strings
  | arrays
  | math
  | faker
  | request
  | binding
deriving DecidableEq

/-- The member of a list whose name the text is. -/
def named? {α : Type} (name : α → String) (all : List α) (text : String) : Option α :=
  all.find? fun f => Text.sameName (name f) text

namespace Family

/-- The families in the order in which they are asked. -/
def all : List Family := [strings, arrays, math, faker, request, binding]

/-- The function of a family with a name. -/
def find? (name : String) : Family → Option Function
  | strings => (named? TextFunction.name TextFunction.all name).map .text
  | arrays =>
    (named? ArrayFunction.name ArrayFunction.all name).map .array <|>
      (named? PickFunction.name PickFunction.all name).map .pick
  | math => (named? MathFunction.name MathFunction.all name).map .math
  | faker =>
    if Text.sameName name "faker" then some .fake
    else (Fake.shortNames.lookup (Text.asciiLower name)).map .fakeAt
  | request => (named? RequestFunction.name RequestFunction.all name).map .request
  | binding => if Text.sameName name "var" then some .assign else none

end Family

namespace Function

def family : Function → Family
  | text _ => .strings
  | array _ | pick _ => .arrays
  | math _ => .math
  | fake | fakeAt _ => .faker
  | request _ => .request
  | assign => .binding

/-- The function with a name; those on the request are known only if there is one. -/
def ofName? (name : String) (withRequest : Bool) : Option Function :=
  (Family.all.filter fun f => withRequest || f != .request).findSome? (Family.find? name)

/-- Calls a function. -/
def call (setting : Setting) (f : Function) (args : Arguments) : Rendering Value :=
  match f with
  | text f => .answer f.name (f.call args)
  | array f => .answer f.name (f.call args)
  | pick f => do Rendering.answer f.name (← Rendering.random (f.call args))
  | math f => .answer f.name (f.call args)
  | fake => do
    let path ← Rendering.answer "faker" (args.string 0)
    makeUp setting.now (Text.asciiLower path) args.tail
  | fakeAt path => makeUp setting.now path args
  | request f => do
    let query ← Rendering.answer f.name (f.query args)
    Rendering.countAccess
    return .string (query.answer (setting.request.getD {}))
  | assign => do
    let (name, v) ← Rendering.answer "var" (assignment args)
    Rendering.setVariable name v
    return .string ""

end Function

end Template

end StubServer
