import StubServer.Template.Arguments
import StubServer.Text.Case

/-!
# Functions on texts

Lengths and places are counted in characters.
-/

namespace StubServer

namespace Template

inductive TextFunction where
  | lowercase
  | uppercase
  | includes
  | substr
  | split
  | padStart
deriving DecidableEq

namespace TextFunction

def all : List TextFunction :=
  [lowercase, uppercase, includes, substr, split, padStart]

def name : TextFunction → String
  | lowercase => "lowercase"
  | uppercase => "uppercase"
  | includes => "includes"
  | substr => "substr"
  | split => "split"
  | padStart => "padStart"

/-- The characters from a start on, of a length if one is given; both are brought into the text's
bounds. -/
def cut (s : String) (start : Int) (length : Option Int) : String :=
  let rest := s.toList.drop start.toNat
  .ofList (match length with
    | some n => rest.take n.toNat
    | none => rest)

def lengthAfter (args : Arguments) : Answer (Option Int) :=
  match args[2]? with
  | none => .ok none
  | some v =>
    match v.asInteger? with
    | some n => .ok (some n)
    | none => .error .noLength

/-- The pieces of a text between the occurrences of a separator. -/
def pieces (s separator : String) : List String :=
  (Text.splitAtText separator.toList s.toList).map String.ofList

/-- The text with the first character of the pad in front until it has the length. -/
def pad (s : String) (length : Int) (padding : String) : String :=
  let c := padding.toList.headD '0'
  .ofList (List.replicate (length.toNat - s.length) c ++ s.toList)

def call (f : TextFunction) (args : Arguments) : Answer Value :=
  match f with
  | lowercase => do return .string (Text.lower (← args.string 0))
  | uppercase => do return .string (Text.upper (← args.string 0))
  | includes => do
    let s ← args.string 0
    let part ← args.string 1
    return .string (if Text.contains s part then "true" else "false")
  | substr => do
    let s ← args.string 0
    let start ← args.integer 1
    return .string (cut s start (← lengthAfter args))
  | split => do
    return .array ((pieces (← args.string 0) (args.stringOr 1 " ")).map .string)
  | padStart => do
    let s ← args.string 0
    let length ← args.integer 1
    if maxPadding < length then .error (.lengthLimit length)
    else return .string (pad s length (args.stringOr 2 "0"))

end TextFunction

end Template

end StubServer
