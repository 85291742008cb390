import StubServer.Number.Text
import StubServer.Pattern.Read
import StubServer.Time.Read

/-!
# Route constraints

What the value of a route parameter has to be, and how a constraint is written: a name, taken
without regard to case, and for some an argument in parentheses.
-/

namespace StubServer

namespace Url

inductive Constraint where
  | int
  | long
  | bool
  | number
  | guid
  | datetime
  | alpha
  | required
  | minLength (least : Nat)
  | maxLength (most : Nat)
  | length (least most : Nat)
  | min (least : Int)
  | max (most : Int)
  | range (least most : Int)
  | regex (r : Pattern.Regex)
deriving DecidableEq

/-- Groups of hexadecimal digits of these lengths, with hyphens between them, or all in one. -/
def isGuid (cs : List Char) : Bool :=
  let inner :=
    match cs with
    | '\x7b' :: rest => (Text.before? ['\x7d'] rest).getD cs
    | _ => cs
  let groups := Text.splitAtChar '-' inner
  groups.all (·.all Text.isHexDigit) &&
    (groups.map List.length == [32] || groups.map List.length == [8, 4, 4, 4, 12])

namespace Constraint

def accepts (k : Constraint) (value : String) : Bool :=
  let cs := value.toList
  let integerIs (p : Int → Bool) : Bool := (Number.readInt64? cs).any p
  match k with
  | int => (Number.readInt32? cs).isSome
  | long => (Number.readInt64? cs).isSome
  | bool => Text.sameName value "true" || Text.sameName value "false"
  | number => (Number.read? cs).any Float.isFinite
  | guid => isGuid cs
  | datetime => Time.isDateTime cs
  | alpha => !cs.isEmpty && cs.all Text.isLetter
  | required => !cs.isEmpty
  | minLength least => least ≤ cs.length
  | maxLength most => cs.length ≤ most
  | length least most => least ≤ cs.length && cs.length ≤ most
  | min least => integerIs fun n => least ≤ n
  | max most => integerIs fun n => n ≤ most
  | range least most => integerIs fun n => least ≤ n && n ≤ most
  | regex r => r.isMatch value

end Constraint

/-- What is wrong with a constraint of a known form. -/
inductive ConstraintFault where
  | notClosed
  | noIntegers
  | argumentCount (expected : Nat)
  | negativeLength
  | noPattern
  | badPattern
  | noArguments
  | textAfterMark
deriving DecidableEq

def ConstraintFault.message : ConstraintFault → String
  | notClosed => "missing closing parenthesis"
  | noIntegers => "arguments must be integers"
  | argumentCount n => s!"expected {n} argument(s)"
  | negativeLength => "length can't be negative"
  | noPattern => "missing pattern"
  | badPattern => "regex parse error"
  | noArguments => "constraint takes no arguments"
  | textAfterMark => "unexpected text after '?'"

inductive ConstraintError where
  | unknown (name : String)
  | invalid (fault : ConstraintFault)
deriving DecidableEq

/-- The integers of an argument, with commas between them. -/
def integers (argument : List Char) : Except ConstraintFault (List Int) :=
  match (Text.splitAtChar ',' argument).mapM fun cs => Number.readInt64? (Text.trimChars cs) with
  | some ns => .ok ns
  | none => .error .noIntegers

def oneInteger (argument : List Char) : Except ConstraintFault Int := do
  match ← integers argument with
  | [n] => return n
  | _ => .error (.argumentCount 1)

def twoIntegers (argument : List Char) : Except ConstraintFault (Int × Int) := do
  match ← integers argument with
  | [m, n] => return (m, n)
  | _ => .error (.argumentCount 2)

def asLength (n : Int) : Except ConstraintFault Nat :=
  if n < 0 then .error .negativeLength else .ok n.toNat

/-- One length for both bounds, or two. -/
def lengths (argument : List Char) : Except ConstraintFault Constraint := do
  match oneInteger argument with
  | .ok n => return .length (← asLength n) (← asLength n)
  | .error _ => do
    let (m, n) ← twoIntegers argument
    return .length (← asLength m) (← asLength n)

/-- The constraints that take an argument. -/
def withArgument? (name : String) (argument : Option (List Char)) :
    Option (Except ConstraintFault Constraint) :=
  let given := argument.getD []
  match name with
  | "minlength" => some do return .minLength (← asLength (← oneInteger given))
  | "maxlength" => some do return .maxLength (← asLength (← oneInteger given))
  | "length" => some (lengths given)
  | "min" => some do return .min (← oneInteger given)
  | "max" => some do return .max (← oneInteger given)
  | "range" => some do
    let (m, n) ← twoIntegers given
    return .range m n
  | "regex" => some do
    match argument with
    | none => .error .noPattern
    | some pattern =>
      match Pattern.Regex.read? (.ofList pattern) true with
      | some r => return .regex r
      | none => .error .badPattern
  | _ => none

def plain? (name : String) : Option Constraint :=
  match name with
  | "int" => some .int
  | "long" => some .long
  | "bool" => some .bool
  | "decimal" | "double" | "float" => some .number
  | "guid" => some .guid
  | "datetime" => some .datetime
  | "alpha" => some .alpha
  | "required" => some .required
  | _ => none

/-- The name of a constraint and its argument. -/
def nameAndArgument (cs : List Char) : Except ConstraintFault (List Char × Option (List Char)) :=
  match Text.cutAt? '(' cs with
  | none => .ok (cs, none)
  | some (name, rest) =>
    match Text.before? [')'] rest with
    | some argument => .ok (name, some argument)
    | none => .error .notClosed

def Constraint.read (cs : List Char) : Except ConstraintError Constraint := do
  let (name, argument) ← (nameAndArgument cs).mapError .invalid
  let name := String.ofList (Text.trimChars name)
  match withArgument? (Text.asciiLower name) argument with
  | some result => result.mapError .invalid
  | none =>
    if argument.isSome then .error (.invalid .noArguments)
    else
      match plain? (Text.asciiLower name) with
      | some k => return k
      | none => .error (.unknown name)

end Url

end StubServer
