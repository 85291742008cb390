import StubServer.Text.Ascii
import StubServer.Text.Blank
import StubServer.Text.Split

/-!
# Request methods

The methods that a route can serve, and sets of them. A set is written as the names of its
members in a fixed order.
-/

namespace StubServer

namespace Http

inductive Method where
  | get
  | post
  | put
  | delete
  | patch
deriving DecidableEq

namespace Method

def all : List Method := [get, post, put, delete, patch]

def name : Method → String
  | get => "GET"
  | post => "POST"
  | put => "PUT"
  | delete => "DELETE"
  | patch => "PATCH"

/-- The method's bit in a mask. -/
def bit : Method → Nat
  | get => 1
  | post => 2
  | put => 4
  | delete => 8
  | patch => 16

theorem mem_all (m : Method) : m ∈ all := by
  cases m <;> simp [all]

def ofName? (name : String) : Option Method :=
  all.find? fun m => m.name = name

end Method

/-- A set of methods. -/
structure MethodSet where
  get : Bool := false
  post : Bool := false
  put : Bool := false
  delete : Bool := false
  patch : Bool := false
deriving DecidableEq, Inhabited

namespace MethodSet

def empty : MethodSet := {}

def contains (s : MethodSet) : Method → Bool
  | .get => s.get
  | .post => s.post
  | .put => s.put
  | .delete => s.delete
  | .patch => s.patch

def insert (s : MethodSet) : Method → MethodSet
  | .get => { s with get := true }
  | .post => { s with post := true }
  | .put => { s with put := true }
  | .delete => { s with delete := true }
  | .patch => { s with patch := true }

theorem contains_insert (s : MethodSet) (m n : Method) :
    (s.insert m).contains n = (s.contains n || m == n) := by
  cases m <;> cases n <;> simp [insert, contains]

def toList (s : MethodSet) : List Method :=
  Method.all.filter s.contains

def ofList (ms : List Method) : MethodSet :=
  ms.foldl insert empty

def isEmpty (s : MethodSet) : Bool :=
  s.toList.isEmpty

/-- The sets have a method in common. -/
def intersects (s t : MethodSet) : Bool :=
  Method.all.any fun m => s.contains m && t.contains m

theorem intersects_iff {s t : MethodSet} :
    s.intersects t = true ↔ ∃ m, s.contains m = true ∧ t.contains m = true := by
  simp [intersects, Method.mem_all]

/-- The members as a mask. -/
def mask (s : MethodSet) : Nat :=
  s.toList.foldr (fun m n => m.bit + n) 0

/-- The names of the members. -/
def joined (s : MethodSet) : String :=
  Text.join ", " (s.toList.map Method.name)

/-- The names of the members, or a word for there being none. -/
def describe (s : MethodSet) : String :=
  if s.isEmpty then "NONE" else s.joined

/-- A name that is no method's. -/
structure UnknownMethod where
  name : String
deriving DecidableEq

def UnknownMethod.message (e : UnknownMethod) : String :=
  s!"Invalid HTTP method: {e.name}"

/-- Adds the methods with the given names, which are taken without regard to case. -/
def addNames (s : MethodSet) : List String → Except UnknownMethod MethodSet
  | [] => .ok s
  | name :: names =>
    match Method.ofName? (Text.asciiUpper name) with
    | some m => addNames (s.insert m) names
    | none => .error ⟨name⟩

/-- Reads a list of names with commas between them; blanks around a name and empty names do not
count. -/
def read (text : String) : Except UnknownMethod MethodSet :=
  empty.addNames
    (((Text.splitAtChar ',' text.toList).map Text.trimChars).filter (!·.isEmpty)
      |>.map String.ofList)

/-- The methods whose routes serve a request's method. A request for the head alone is served like
one for the whole, and an unknown method by no route. -/
def ofRequest (method : String) : MethodSet :=
  let name := Text.asciiUpper method
  if name = "HEAD" then empty.insert .get
  else
    match Method.ofName? name with
    | some m => empty.insert m
    | none => empty

end MethodSet

end Http

end StubServer
