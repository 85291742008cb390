import StubServer.Draws

/-!
# Draws that can go wrong

Made-up data is drawn from ranges and lists. A range without a number in it is no range to draw
from, and a list need not have a member at an index. Such a draw has no result.
-/

namespace StubServer

namespace Fake

/-- How a draw goes wrong. -/
inductive Misdraw where
  | emptyRange
  | noMember
deriving DecidableEq

/-- A computation that draws words and may go wrong. -/
abbrev Making (α : Type) := ExceptT Misdraw Random α

namespace Making

/-- Draws from a range that is not empty. -/
def unlessEmpty {α : Type} (empty : Bool) (draw : Random α) : Making α :=
  if empty then throw .emptyRange else draw

/-- A number below `range`, from whole words. -/
def below64 (range : Nat) : Making Nat :=
  unlessEmpty (range == 0) (Random.below64 range)

/-- A number below `range`, from half words. -/
def below32 (range : Nat) : Making Nat :=
  unlessEmpty (range == 0) (Random.below32 range)

/-- A number below `range`, from half words, every number equally likely. -/
def belowSmall (range : Nat) : Making Nat :=
  unlessEmpty (range == 0) (Random.belowSmall range)

/-- An integer of 64 bits within the interval, both ends included. -/
def between (low high : Int) : Making Int :=
  unlessEmpty (high < low) (Random.between low high)

/-- A number from `low` up to and without `high`. -/
def floatBelow (low high : Float) : Making Float :=
  unlessEmpty (!decide (low < high)) (Random.floatBelow low high Random.patience)

/-- A number of the interval, both ends included. -/
def floatBetween (low high : Float) : Making Float :=
  unlessEmpty (!decide (low ≤ high)) (Random.floatBetween low high)

/-- A member of a list. -/
def pick {α : Type} (items : List α) : Making α := do
  match items[← below64 items.length]? with
  | some a => return a
  | none => throw .noMember

/-- Runs an action a number of times and keeps the results in order. -/
def times {α : Type} (action : Making α) : Nat → Making (List α)
  | 0 => return []
  | n + 1 => return (← action) :: (← times action n)

/-- The result of a draw. One that goes wrong has none. -/
def result {α : Type} (m : Making α) : Random α := do
  match ← m.run with
  | .ok a => return a
  | .error _ => fun _ => none

end Making

end Fake

end StubServer
