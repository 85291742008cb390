import StubServer.Bindings
import StubServer.Pattern.Read
import StubServer.Text.Ascii
import StubServer.Text.Blank
import StubServer.Text.Split

/-!
# Rules

A rule is a test of one header, query parameter or route parameter of a request, or a combination
of rules. It is evaluated against the maps of a request, some of which may not be there.
-/

namespace StubServer

/-- The map of a request that a rule reads from. -/
inductive RuleField where
  | header
  | query
  | route
deriving DecidableEq

namespace RuleField

def all : List RuleField := [header, query, route]

def name : RuleField → String
  | header => "Header"
  | query => "Query"
  | route => "Route"

def describe : RuleField → String
  | header => "header"
  | query => "query"
  | route => "route parameter"

def ofName? (name : String) : Option RuleField :=
  all.find? fun f => Text.sameName f.name name

/-- The name under which a key is looked up. -/
def lookupKey (f : RuleField) (key : String) : String :=
  match f with
  | header => Text.asciiLower key
  | query => key
  | route => key

end RuleField

inductive RuleOperation where
  | equals
  | contains
  | regex
  | nullOrEmpty
deriving DecidableEq

namespace RuleOperation

def all : List RuleOperation := [equals, contains, regex, nullOrEmpty]

def name : RuleOperation → String
  | equals => "Equals"
  | contains => "Contains"
  | regex => "Regex"
  | nullOrEmpty => "NullOrEmpty"

def ofName? (name : String) : Option RuleOperation :=
  all.find? fun op => Text.sameName op.name name

end RuleOperation

inductive Combinator where
  | and
  | or
deriving DecidableEq

namespace Combinator

def name : Combinator → String
  | and => "AND"
  | or => "OR"

def ofName? (name : String) : Option Combinator :=
  [and, or].find? fun c => Text.sameName c.name name

end Combinator

/-- What a fetched value is put to. -/
inductive RuleTest where
  | equals
  | contains
  | pattern (p : Pattern.Regex)
  | nullOrEmpty

def RuleTest.operation : RuleTest → RuleOperation
  | equals => .equals
  | contains => .contains
  | pattern _ => .regex
  | nullOrEmpty => .nullOrEmpty

/-- A test of one field. The value is the pattern's text when the test is a pattern. -/
structure SingleRule where
  field : RuleField
  key : String
  value : String
  test : RuleTest
  negate : Bool

inductive Rule where
  | single (r : SingleRule)
  | aggregate (op : Combinator) (rules : List Rule)

/-- Why there is no such rule. -/
inductive RuleError where
  | emptyKey
  | invalidRegex (pattern : String)
  | unknownOperation (name : String)
  | missingDiscriminator
  | unknownType (name : String)
  | missingRules (op : Combinator)
deriving DecidableEq

def RuleError.message : RuleError → String
  | emptyKey => "rule key can't be empty"
  | invalidRegex pattern => s!"invalid regex '{pattern}': regex parse error"
  | unknownOperation name => s!"unknown rule operation '{name}'"
  | missingDiscriminator =>
    "rule needs either a 'type' or an aggregate 'operation' with 'rules'"
  | unknownType name => s!"unknown rule type '{name}'"
  | missingRules op => s!"aggregate rule '{op.name}' has no 'rules' list"

namespace SingleRule

/-- The test that an operation makes with a value. -/
def testOf (op : RuleOperation) (value : String) : Except RuleError RuleTest :=
  match op with
  | .equals => .ok .equals
  | .contains => .ok .contains
  | .nullOrEmpty => .ok .nullOrEmpty
  | .regex =>
    match Pattern.Regex.read? value false with
    | some p => .ok (.pattern p)
    | none => .error (.invalidRegex value)

def make (field : RuleField) (key value : String) (op : RuleOperation) (negate : Bool) :
    Except RuleError SingleRule :=
  if Text.isAllBlank key then .error .emptyKey
  else do return { field, key, value, test := ← testOf op value, negate }

/-- The outcome of the test, before it may be negated. -/
def passes (r : SingleRule) (fetched : String) : Bool :=
  match r.test with
  | .equals => fetched == r.value
  | .contains => Text.contains fetched r.value
  | .pattern p => p.isMatch fetched
  | .nullOrEmpty => fetched == ""

/-- The outcome for a value that may be missing. A missing route parameter satisfies no rule; any
other missing value counts as empty. -/
def accepts (r : SingleRule) (fetched : Option String) : Bool :=
  match r.field, fetched with
  | .route, none => false
  | _, _ => r.negate ^^ r.passes (fetched.getD "")

def evaluate {ε : Type} (source : RuleField → Except ε (Bindings String)) (r : SingleRule) :
    Except ε Bool := do
  let values ← source r.field
  return r.accepts (values.get? (r.field.lookupKey r.key))

end SingleRule

namespace Rule

mutual

/-- The outcome of a rule. A combination of no rules is never satisfied, and rules behind the one
that decides a combination are not looked at. -/
def evaluate {ε : Type} (source : RuleField → Except ε (Bindings String)) :
    Rule → Except ε Bool
  | single r => r.evaluate source
  | aggregate _ [] => .ok false
  | aggregate .and (r :: rs) => evaluateAll source (r :: rs)
  | aggregate .or (r :: rs) => evaluateAny source (r :: rs)

def evaluateAll {ε : Type} (source : RuleField → Except ε (Bindings String)) :
    List Rule → Except ε Bool
  | [] => .ok true
  | r :: rs => do if ← evaluate source r then evaluateAll source rs else return false

def evaluateAny {ε : Type} (source : RuleField → Except ε (Bindings String)) :
    List Rule → Except ε Bool
  | [] => .ok false
  | r :: rs => do if ← evaluate source r then return true else evaluateAny source rs

end

end Rule

/-- The maps of a request, header names in lower case. -/
structure RuleInput where
  headers : Bindings String := .empty
  query : Bindings String := .empty
  routeParams : Bindings String := .empty

namespace RuleInput

def values (input : RuleInput) : RuleField → Bindings String
  | .header => input.headers
  | .query => input.query
  | .route => input.routeParams

/-- The input of maps, header names being brought into lower case. -/
def ofMaps (headers query routeParams : List (String × String)) : RuleInput :=
  { headers := .ofList (headers.map fun (name, value) => (Text.asciiLower name, value))
    query := .ofList query
    routeParams := .ofList routeParams }

end RuleInput

/-- The request satisfies the rule. -/
def Rule.holds (r : Rule) (input : RuleInput) : Bool :=
  match r.evaluate fun f => (.ok (input.values f) : Except Empty (Bindings String)) with
  | .ok b => b
  | .error e => nomatch e

/-- Some of the maps of a request. -/
structure PartialRuleInput where
  headers : Option (Bindings String) := none
  query : Option (Bindings String) := none
  routeParams : Option (Bindings String) := none

/-- The map that a rule needed was not there. -/
structure MissingField where
  field : RuleField
deriving DecidableEq

def MissingField.message (e : MissingField) : String :=
  s!"rule input has no {e.field.describe} data"

def PartialRuleInput.values (input : PartialRuleInput) (f : RuleField) :
    Except MissingField (Bindings String) :=
  let found :=
    match f with
    | .header => input.headers
    | .query => input.query
    | .route => input.routeParams
  match found with
  | some values => .ok values
  | none => .error ⟨f⟩

end StubServer
