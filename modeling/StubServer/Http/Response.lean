import StubServer.Json.Basic
import StubServer.Text.Ascii

/-!
# Responses

A response as it goes out, with tags that say how it came about.
-/

namespace StubServer

namespace Http

inductive Tag where
  | mocked
  | notFound
  | templateError
  | system
deriving DecidableEq

def Tag.name : Tag → String
  | mocked => "mocked"
  | notFound => "not_found"
  | templateError => "template_error"
  | system => "system"

structure Response where
  status : Nat
  headers : List (String × String) := []
  body : String := ""
  tags : List Tag := []
  /-- The body does not depend on the request and may be cached. -/
  cacheable : Bool := false
deriving DecidableEq, Inhabited

namespace Response

/-- The value of the first header with the name, in any case. -/
def header? (r : Response) (name : String) : Option String :=
  (r.headers.find? fun h => Text.sameName h.1 name).map (·.2)

theorem isSome_header? (r : Response) (name : String) :
    (r.header? name).isSome = r.headers.any fun h => Text.sameName h.1 name := by
  rw [header?, Option.isSome_map, List.isSome_find?]

/-- A response with a value as its body, fields in ascending order of names. -/
def ofJson (status : Nat) (body : Json) (tags : List Tag) : Response :=
  { status, headers := [("Content-Type", "application/json")], body := body.sorted.write, tags }

/-- A response that says what went wrong. -/
def ofError (status : Nat) (error message : String) (tags : List Tag) : Response :=
  ofJson status (.object [("error", .string error), ("message", .string message)]) tags

/-- The text of the response: its status, its headers and its body. -/
def write (r : Response) : String :=
  s!"HTTP {r.status}\n" ++
    Text.join "" (r.headers.map fun (name, value) => s!"{name}: {value}\n") ++
    "\n" ++ r.body ++ "\n\n"

end Response

end Http

end StubServer
