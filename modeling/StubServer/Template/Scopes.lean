import StubServer.Bindings
import StubServer.Template.Value

/-!
# Scopes

The variables of a template live in a stack of scopes. The outermost scope is always there, so the
stack is kept as the inner scopes, innermost first, and that one.
-/

namespace StubServer

namespace Template

structure Scopes where
  inner : List (Bindings Value) := []
  root : Bindings Value := .empty
deriving Inhabited

namespace Scopes

/-- The scopes from the innermost to the outermost. -/
def toList (s : Scopes) : List (Bindings Value) :=
  s.inner ++ [s.root]

def depth (s : Scopes) : Nat :=
  s.inner.length + 1

def push (s : Scopes) : Scopes :=
  { s with inner := .empty :: s.inner }

/-- Drops the innermost scope; the outermost one stays. -/
def pop (s : Scopes) : Scopes :=
  { s with inner := s.inner.tail }

/-- Binds a variable in the innermost scope. -/
def set (s : Scopes) (name : String) (v : Value) : Scopes :=
  match s.inner with
  | [] => { s with root := s.root.insert name v }
  | top :: rest => { s with inner := top.insert name v :: rest }

/-- The value in the innermost scope that binds the variable. -/
def get? (s : Scopes) (name : String) : Option Value :=
  s.toList.findSome? fun scope => scope.get? name

@[simp]
theorem pop_push (s : Scopes) : s.push.pop = s := rfl

@[simp]
theorem depth_push (s : Scopes) : s.push.depth = s.depth + 1 := rfl

@[simp]
theorem depth_set (s : Scopes) (name : String) (v : Value) : (s.set name v).depth = s.depth := by
  unfold set depth
  split <;> simp_all

theorem get?_set (s : Scopes) (name : String) (v : Value) (other : String) :
    (s.set name v).get? other = if other = name then some v else s.get? other := by
  unfold set get? toList
  split <;> by_cases h : other = name <;> simp_all [List.findSome?_cons, Bindings.get?_insert]

end Scopes

end Template

end StubServer
