import StubServer.Template.Error
import StubServer.Template.Value

/-!
# Arguments of functions

The arguments that a function is called with, looked up by place and type. Places are counted from
0 here and from 1 in what is said about them.
-/

namespace StubServer

namespace Template

/-- What a function gives, or what is wrong with its arguments. -/
abbrev Answer (α : Type) := Except ArgumentFault α

abbrev Arguments := List Value

namespace Arguments

def value (args : Arguments) (place : Nat) : Answer Value :=
  match args[place]? with
  | some v => .ok v
  | none => .error (.missing (place + 1))

def string (args : Arguments) (place : Nat) : Answer String := do
  let v ← args.value place
  match v.asString? with
  | some s => return s
  | none => .error (.noString (place + 1) v.typeName)

def integer (args : Arguments) (place : Nat) : Answer Int := do
  match (← args.value place).asInteger? with
  | some n => return n
  | none => .error (.noInteger (place + 1))

theorem integer_eq_ok_iff {args : Arguments} {place : Nat} {n : Int} :
    args.integer place = .ok n ↔ ∃ v, args[place]? = some v ∧ v.asInteger? = some n := by
  simp only [integer, value]
  cases args[place]? with
  | none => simp [bind, Except.bind]
  | some v => cases hn : v.asInteger? <;> simp [bind, Except.bind, pure, Except.pure, hn]

theorem fitsInt64_of_integer {args : Arguments} {place : Nat} {n : Int}
    (h : args.integer place = .ok n) : Number.fitsInt64 n = true := by
  obtain ⟨v, -, hn⟩ := integer_eq_ok_iff.1 h
  exact Value.fitsInt64_of_asInteger? hn

def array (args : Arguments) (place : Nat) : Answer (List Value) := do
  let v ← args.value place
  match v.asArray? with
  | some items => return items
  | none => .error (.noArray (place + 1) v.typeName)

def number (args : Arguments) (place : Nat) : Answer Float := do
  match (← args.value place).asNumber? with
  | some x => return x
  | none => .error (.noNumber (place + 1))

/-- The text at a place; the fallback when there is none or it is no text. -/
def stringOr (args : Arguments) (place : Nat) (fallback : String) : String :=
  (args[place]?.bind Value.asString?).getD fallback

/-- The integer at a place, if there is one. -/
def integer? (args : Arguments) (place : Nat) : Option Int :=
  args[place]?.bind Value.asInteger?

theorem fitsInt64_of_integer? {args : Arguments} {place : Nat} {n : Int}
    (h : args.integer? place = some n) : Number.fitsInt64 n = true := by
  obtain ⟨v, -, hn⟩ := Option.bind_eq_some_iff.1 h
  exact Value.fitsInt64_of_asInteger? hn

/-- The arguments that are numbers; the others do not count. -/
def numbers (args : Arguments) : List Float :=
  args.filterMap Value.asNumber?

end Arguments

/-- The relation holds between all neighbours. -/
def allNeighbours {α : Type} (r : α → α → Bool) : List α → Bool
  | [] => true
  | [_] => true
  | a :: b :: rest => r a b && allNeighbours r (b :: rest)

end Template

end StubServer
