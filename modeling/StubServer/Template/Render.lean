import StubServer.Template.Compile
import StubServer.Template.Function

/-!
# Rendering

A list of nodes is rendered to a text, from left to right. An error ends the whole rendering.
-/

namespace StubServer

namespace Template

/-- Puts the separator right behind the content of a text, all of it written backwards; of the
blanks that end the text one line break stays, if there is any. -/
def separate (text separator : List Char) : List Char :=
  let breaks := (text.takeWhile Text.isBlank).any fun c => c == '\n' || c == '\r'
  (if breaks then ['\n'] else []) ++ separator ++ text.dropWhile Text.isBlank

/-- The number of repetitions and what stands between them. -/
structure Repeat where
  count : Nat
  separator : Option String

def checkCount (n : Int) : Except BlockFault Int :=
  if maxRepeat < n then .error (.tooMany n) else .ok n

/-- The number of repetitions is given, or drawn from an interval. -/
inductive RepeatPlan where
  | exactly (count : Int) (separator : Option String)
  | within (min max : Int) (separator : Option String)

def RepeatPlan.ofValues (values : List Value) : Except BlockFault RepeatPlan := do
  match values with
  | [] => .error .noCount
  | first :: rest =>
    match first.asInteger? with
    | none => .error (.noIntegerCount first.text)
    | some min =>
      match rest with
      | [] => return .exactly (← checkCount min) none
      | second :: rest =>
        match second.asInteger? with
        | none => return .exactly (← checkCount min) (some second.text)
        | some max =>
          if max < min then .error (.maxBelowMin max min)
          else return .within min (← checkCount max) (rest.head?.map Value.text)

def RepeatPlan.draw : RepeatPlan → Random Repeat
  | exactly count separator => return ⟨count.toNat, separator⟩
  | within min max separator => return ⟨(← Random.between min max).toNat, separator⟩

namespace Rendering

def blockAnswer {α : Type} (block : String) (a : Except BlockFault α) : Rendering α :=
  match a with
  | .ok v => pure v
  | .error fault => throw (.invalidBlock block fault)

/-- Renders the body for each of the next `count` indices, behind the text so far. Text and
separator are written backwards. -/
def repeated (body : Rendering String) (separator : Option (List Char)) (text : List Char)
    (index : Nat) : Nat → Rendering (List Char)
  | 0 => return text
  | count + 1 => do
    setVariable "index" (.string (toString index))
    let piece ← inScope body
    let text :=
      match index, separator with
      | _ + 1, some separator => separate text separator
      | _, _ => text
    repeated body separator (piece.toList.reverse ++ text) (index + 1) count

def repeatBody (body : Rendering String) (r : Repeat) : Rendering String :=
  return .ofList (← repeated body (r.separator.map (·.toList.reverse)) [] 0 r.count).reverse

/-- Renders the body for each item. -/
def each (body : Rendering String) (text : String) (index : Nat) : List Value → Rendering String
  | [] => return text
  | item :: items => do
    setVariable "this" item
    setVariable "index" (.string (toString index))
    each body (text ++ (← inScope body)) (index + 1) items

end Rendering

/-- What a node does between the clauses of an `if` block. -/
inductive Marker where
  | otherwise
  | orIf
deriving DecidableEq

/-- A function named `else`, without parameters, or named `elsif` divides clauses. -/
def Node.marker? : Node → Option Marker
  | function name params =>
    if name = "else" ∧ params = [] then some .otherwise
    else if name = "elsif" then some .orIf
    else none
  | _ => none

def Node.hasParams : Node → Bool
  | function _ (_ :: _) => true
  | _ => false

/-- What is wrong with the markers of an `if` block; `closed` is whether an `else` came before. -/
def clauseFault? (closed : Bool) : List Node → Option BlockFault
  | [] => none
  | n :: ns =>
    match n.marker? with
    | none => clauseFault? closed ns
    | some .otherwise => if closed then some .secondElse else clauseFault? true ns
    | some .orIf =>
      if closed then some .elsifAfterElse
      else if n.hasParams then clauseFault? closed ns
      else some .elsifWithoutCondition

mutual

/-- Renders nodes one after another. -/
def render (setting : Setting) : List Node → Rendering String
  | [] => return ""
  | n :: ns => do
    let v ← evaluate setting n
    return v.text ++ (← render setting ns)

def evaluate (setting : Setting) : Node → Rendering Value
  | .text s => return .string s
  | .literal s => return .string s
  | .variable name => Rendering.valueOf name
  | .function name params => do
    let args ← evaluateAll setting params
    match Function.ofName? name setting.request.isSome with
    | some f => f.call setting args
    | none => throw (.undefinedFunction name)
  | .block name params body =>
    .string <$>
      if name = "repeat" then do
        let values ← evaluateAll setting params
        let plan ← Rendering.blockAnswer name (RepeatPlan.ofValues values)
        let r ← Rendering.random plan.draw
        Rendering.inScope (Rendering.repeatBody (render setting body) r)
      else if name = "each" then
        match params with
        | [] => throw (.invalidBlock name .noArray)
        | source :: _ => do
          match ← evaluate setting source with
          | .array items => Rendering.inScope (Rendering.each (render setting body) "" 0 items)
          | v => throw (.invalidBlock name (.notArray v.typeName))
      else if name = "if" then
        match params with
        | [] => throw (.invalidBlock name .noCondition)
        | condition :: _ =>
          match clauseFault? false body with
          | some fault => throw (.invalidBlock name fault)
          | none => do
            if (← evaluate setting condition).isTruthy then
              Rendering.inScope (renderClause setting body)
            else renderLaterClause setting body
      else throw (.unknownBlock name)

def evaluateAll (setting : Setting) : List Node → Rendering (List Value)
  | [] => return []
  | n :: ns => do
    let v ← evaluate setting n
    return v :: (← evaluateAll setting ns)

/-- Renders the nodes up to the next marker. -/
def renderClause (setting : Setting) : List Node → Rendering String
  | [] => return ""
  | n :: ns =>
    if n.marker?.isSome then return ""
    else do
      let v ← evaluate setting n
      return v.text ++ (← renderClause setting ns)

/-- Renders the first clause behind a later marker whose condition is true. -/
def renderLaterClause (setting : Setting) : List Node → Rendering String
  | [] => return ""
  | .function name params :: ns =>
    match params with
    | [] =>
      if name = "else" then Rendering.inScope (renderClause setting ns)
      else renderLaterClause setting ns
    | condition :: _ =>
      if name = "elsif" then do
        if (← evaluate setting condition).isTruthy then
          Rendering.inScope (renderClause setting ns)
        else renderLaterClause setting ns
      else renderLaterClause setting ns
  | _ :: ns => renderLaterClause setting ns

end

/-- Renders a template from an empty scope. -/
def Compiled.render (setting : Setting) : Compiled → Rendering String
  | static text => return text
  | nodes ns => Template.render setting ns

/-- The outcome of a rendering: its text or why it failed, the words drawn and the number of times
it read the request. -/
structure Rendered where
  text : Except EvalError String
  draws : Draws
  accesses : Nat

def Compiled.run (c : Compiled) (setting : Setting) (draws : Draws) : Rendered :=
  match c.render setting { draws } with
  | .ok text s => ⟨.ok text, s.draws, s.accesses⟩
  | .error e s => ⟨.error e, s.draws, s.accesses⟩

end Template

end StubServer
