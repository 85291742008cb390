import StubServer.Json.Read
import StubServer.Rule.Basic

/-!
# Rules in documents

The fields of a rule, of which a single rule and a combination use some each. What the fields mean
is decided when all of them have been read.
-/

namespace StubServer

/-- The fields of a rule as they are written. -/
structure RuleFields where
  type : Option String
  key : Option String
  value : Option String
  operation : Option String
  negate : Bool
  rules : Option (List Rule)

namespace RuleFields

/-- The single rule that the fields mean. -/
def single (f : RuleFields) : Except RuleError SingleRule := do
  match f.type with
  | none => .error .missingDiscriminator
  | some type =>
    match RuleField.ofName? type with
    | none => .error (.unknownType type)
    | some field =>
      match f.operation with
      | none => SingleRule.make field (f.key.getD "") (f.value.getD "") .equals f.negate
      | some name =>
        match RuleOperation.ofName? name with
        | none => .error (.unknownOperation name)
        | some op => SingleRule.make field (f.key.getD "") (f.value.getD "") op f.negate

/-- The rule that the fields mean. The name of a combinator decides, whatever the type is. -/
def toRule (f : RuleFields) : Except RuleError Rule :=
  match f.operation.bind Combinator.ofName? with
  | some op =>
    match f.rules with
    | some rules => .ok (.aggregate op rules)
    | none => .error (.missingRules op)
  | none => f.single.map .single

end RuleFields

namespace Rule

/-- Reads a rule that is nested less deep than `depth`. -/
def readWithin (depth : Nat) : Reader RuleError Rule := fun d =>
  match depth with
  | 0 => .error .malformed
  | depth + 1 => do
    let fields : Fields RuleError RuleFields :=
      RuleFields.mk
        <$> .optional 0 "type" Reader.text
        <*> .optional 1 "key" Reader.text
        <*> .optional 2 "value" Reader.text
        <*> .field 3 "operation" ["op"] (some none) (Reader.orNull Reader.text)
        <*> .defaulted 4 "negate" false Reader.boolean
        <*> .optional 5 "rules" (Reader.list (readWithin depth))
    let f ← fields.read d
    f.toRule.mapError .meaning

def read : Reader RuleError Rule := fun d =>
  readWithin (d.height + 1) d

mutual

/-- The rule as it is written in a document. -/
def toJson : Rule → Json
  | single r =>
    .object ([("type", .string r.field.name), ("key", .string r.key), ("value", .string r.value),
      ("operation", .string r.test.operation.name)] ++
      if r.negate then [("negate", .bool true)] else [])
  | aggregate op rules =>
    .object [("operation", .string op.name), ("rules", .array (listToJson rules))]

def listToJson : List Rule → List Json
  | [] => []
  | r :: rs => r.toJson :: listToJson rs

end

end Rule

end StubServer
