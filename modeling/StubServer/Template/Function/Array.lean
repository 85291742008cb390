import StubServer.Draws
import StubServer.Template.Arguments
import StubServer.Text.Ascii

/-!
# Functions on arrays

Making, cutting, ordering and joining of arrays, and the two functions that draw items from one.
-/

namespace StubServer

namespace Template

inductive ArrayFunction where
  | array
  | join
  | slice
  | sort
  | reverse
deriving DecidableEq

namespace ArrayFunction

def all : List ArrayFunction :=
  [array, join, slice, sort, reverse]

def name : ArrayFunction → String
  | array => "array"
  | join => "join"
  | slice => "slice"
  | sort => "sort"
  | reverse => "reverse"

def joined (items : List Value) (separator : String) : String :=
  Text.join separator (items.map Value.text)

/-- The items from a start up to an end, if one is given; both are brought into the array's
bounds. -/
def cut (items : List Value) (start : Int) (stop : Option Int) : List Value :=
  (match stop with
    | some n => items.take n.toNat
    | none => items).drop start.toNat

/-- The items in ascending order of their texts; of equal texts the earlier item comes first. -/
def ascending (items : List Value) : List Value :=
  items.mergeSort fun v w => decide (v.text ≤ w.text)

inductive Order where
  | ascending
  | descending
deriving DecidableEq

def Order.read (word : String) : Answer Order :=
  let word := Text.asciiLower word
  if word = "asc" then .ok ascending
  else if word = "desc" then .ok descending
  else .error (.unknownOrder word)

def sorted (items : List Value) : Order → List Value
  | .ascending => ascending items
  | .descending => (ascending items).reverse

def call (f : ArrayFunction) (args : Arguments) : Answer Value :=
  match f with
  | array => if args.isEmpty then .error .noElements else .ok (.array args)
  | join => do return .string (joined (← args.array 0) (args.stringOr 1 " "))
  | slice => do
    let items ← args.array 0
    let start ← args.integer 1
    let stop ← if args.length ≤ 2 then pure none else some <$> args.integer 2
    return .array (cut items start stop)
  | sort => do
    let items ← args.array 0
    return .array (sorted items (← Order.read (args.stringOr 1 "asc")))
  | reverse => do return .array (← args.array 0).reverse

end ArrayFunction

inductive PickFunction where
  | oneOf
  | someOf
deriving DecidableEq

namespace PickFunction

def all : List PickFunction :=
  [oneOf, someOf]

def name : PickFunction → String
  | oneOf => "oneOf"
  | someOf => "someOf"

/-- What is drawn: one item, or a number of items within an interval. -/
inductive Request where
  | one (items : List Value)
  | several (items : List Value) (min max : Int) (asText : Bool)

def request (f : PickFunction) (args : Arguments) : Answer Request :=
  match f with
  | oneOf => do return .one (← args.array 0)
  | someOf => do
    let items ← args.array 0
    let min ← args.integer 1
    let max ← args.integer 2
    if min < 0 ∨ max < min then .error (.invalidRange min max)
    else return .several items min max (Text.sameName (args.stringOr 3 "false") "true")

def Request.draw : Request → Random (Answer Value)
  | .one items => do
    match ← Random.choose? items with
    | some v => return .ok v
    | none => return .error .emptyArray
  | .several items min max asText => do
    let count ← Random.between min max
    let picked := (← Random.shuffle items).take count.toNat
    return .ok (.array (if asText then picked.map fun v => .string v.text else picked))

def call (f : PickFunction) (args : Arguments) : Random (Answer Value) :=
  match f.request args with
  | .ok r => r.draw
  | .error e => return .error e

end PickFunction

end Template

end StubServer
