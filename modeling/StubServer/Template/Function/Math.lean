import StubServer.Number.Binary
import StubServer.Template.Arguments

/-!
# Functions on numbers

Arithmetic, rounding and comparison. Functions that take any number of numbers pass over the
arguments that are none.
-/

namespace StubServer

namespace Template

inductive MathFunction where
  | add
  | multiply
  | subtract
  | divide
  | modulo
  | ceil
  | floor
  | round
  | toFixed
  | eq
  | noteq
  | gt
  | gte
  | lt
  | lte
deriving DecidableEq

namespace MathFunction

def all : List MathFunction :=
  [add, multiply, subtract, divide, modulo, ceil, floor, round, toFixed, eq, noteq, gt, gte, lt,
    lte]

def name : MathFunction → String
  | add => "add"
  | multiply => "multiply"
  | subtract => "subtract"
  | divide => "divide"
  | modulo => "modulo"
  | ceil => "ceil"
  | floor => "floor"
  | round => "round"
  | toFixed => "toFixed"
  | eq => "eq"
  | noteq => "noteq"
  | gt => "gt"
  | gte => "gte"
  | lt => "lt"
  | lte => "lte"

/-- The sum, which of nothing is the negative zero: added to any number it leaves it as it is. -/
def sum (xs : List Float) : Float :=
  xs.foldl (· + ·) (-0.0)

def product (xs : List Float) : Float :=
  xs.foldl (· * ·) 1

/-- The first number combined with each of the others in turn; zero when there is none. -/
def foldFirst (op : Float → Float → Float) : List Float → Float
  | [] => 0
  | x :: xs => xs.foldl op x

/-- The most places to which a number is rounded. -/
def maxPlaces : Int := 15

def roundTo (x : Float) (places : Nat) : Float :=
  let factor := Float.ofNat (Nat.pow 10 places)
  Number.roundToEven (x * factor) / factor

/-- The comparison holds between all neighbours of at least two numbers. -/
def compare (r : Float → Float → Bool) (xs : List Float) : Answer Value :=
  if xs.length < 2 then .error .tooFewToCompare else .ok (.bool (allNeighbours r xs))

def call (f : MathFunction) (args : Arguments) : Answer Value :=
  match f with
  | add => .ok (.number (sum args.numbers))
  | multiply => .ok (.number (product args.numbers))
  | subtract => .ok (.number (foldFirst (· - ·) args.numbers))
  | divide => .ok (.number (foldFirst (· / ·) args.numbers))
  | modulo =>
    match args.numbers with
    | x :: y :: _ => .ok (.number (Number.remainder x y))
    | _ => .error .tooFewNumbers
  | ceil => do return .number (← args.number 0).ceil
  | floor => do return .number (← args.number 0).floor
  | round => do return .number (Number.roundToEven (← args.number 0))
  | toFixed => do
    let x ← args.number 0
    let places ← args.integer 1
    if 0 ≤ places ∧ places ≤ maxPlaces then return .number (roundTo x places.toNat)
    else .error .decimalsLimit
  | eq => .ok (.bool (allNeighbours Value.equals args))
  | noteq =>
    match args with
    | v :: w :: _ => .ok (.bool (!v.equals w))
    | _ => .error .tooFewArguments
  | gt => compare (fun x y => x > y) args.numbers
  | gte => compare (fun x y => x ≥ y) args.numbers
  | lt => compare (fun x y => x < y) args.numbers
  | lte => compare (fun x y => x ≤ y) args.numbers

end MathFunction

end Template

end StubServer
