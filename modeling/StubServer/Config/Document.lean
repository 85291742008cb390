import StubServer.Config.Basic
import StubServer.Rule.Document

/-!
# Configurations in documents

How configurations and their parts are read from documents and written to them.
-/

namespace StubServer

namespace Config

/-- What a reader may find wrong with a meaning. -/
inductive Misuse where
  | rule (e : RuleError)
  | methods (e : Http.MethodSet.UnknownMethod)
deriving DecidableEq

def Misuse.message : Misuse → String
  | rule e => e.message
  | methods e => e.message

abbrev ConfigReader (α : Type) := Reader Misuse α

def Header.read : ConfigReader Header :=
  Fields.read (Header.mk
    <$> .required 0 "key" Reader.text
    <*> .defaulted 1 "value" "" Reader.text)

/-- A text; nothing stands for the empty one. -/
def readBody : ConfigReader String := fun d =>
  return (← Reader.orNull Reader.text d).getD ""

def readRule : ConfigReader Rule := fun d =>
  (Rule.read d).mapError (·.map .rule)

def Response.read : ConfigReader Response :=
  Fields.read (Response.mk
    <$> .optional 0 "id" Reader.text
    <*> .defaulted 1 "name" "" Reader.text
    <*> .optional 2 "description" Reader.text
    <*> .defaulted 3 "statusCode" 200 (Reader.natural Number.size16)
    <*> .defaulted 4 "body" "" readBody
    <*> .defaulted 5 "headers" [] (Reader.list Header.read)
    <*> .defaulted 6 "rules" [] (Reader.list readRule)
    <*> .defaulted 7 "delay" 0 (Reader.natural Number.size64)
    <*> .defaulted 8 "disableTemplating" false Reader.boolean
    <*> .defaulted 9 "strictTemplateErrors" false Reader.boolean
    <*> .defaulted 10 "allowResponseCaching" false Reader.boolean)

def Strategy.ofName? (name : String) : Option Strategy :=
  match name with
  | "Default" | "default" | "DEFAULT" => some .first
  | "Random" | "random" | "RANDOM" => some .random
  | "Sequence" | "sequence" | "SEQUENCE" => some .sequence
  | _ => none

/-- A name, or a record of nothing but the name. -/
def Strategy.read : ConfigReader Strategy := fun d =>
  let named (name : String) : Except (ReadError Misuse) Strategy :=
    match Strategy.ofName? name with
    | some s => .ok s
    | none => .error .malformed
  match d with
  | .text name => named name
  | .plain name => named name
  | .record [(some name, .null)] true => named name
  | _ => .error .malformed

/-- Methods are a text with commas, or a list of such texts. -/
def readMethods : ConfigReader Http.MethodSet := fun d => do
  let joined : String ←
    match d with
    | .text s => pure s
    | .plain s => if Reader.isNullWord s then .error .malformed else pure s
    | d => Text.join "," <$> Reader.list Reader.text d
  (Http.MethodSet.read joined).mapError fun e => .meaning (.methods e)

def Route.read : ConfigReader Route :=
  Fields.read (Route.mk
    <$> .optional 0 "id" Reader.text
    <*> .required 1 "urlTemplate" Reader.text
    <*> .defaulted 2 "httpMethod" .empty readMethods
    <*> .defaulted 3 "responses" [] (Reader.list Response.read)
    <*> .defaulted 4 "responseSelectionStrategy" .first Strategy.read
    <*> .defaulted 5 "enabled" true Reader.boolean)

def Environment.read : ConfigReader Environment :=
  Fields.read (Environment.mk
    <$> .optional 0 "id" Reader.text
    <*> .defaulted 1 "name" "" Reader.text
    <*> .field 2 "isActive" ["active"] (some false) Reader.boolean
    <*> .defaulted 3 "routes" [] (Reader.list Route.read))

def Settings.read : ConfigReader Settings :=
  Fields.read (Settings.mk
    <$> .defaulted 0 "logMatches" true Reader.boolean
    <*> .defaulted 1 "logUnmatched" true Reader.boolean
    <*> .defaulted 2 "defaultContentType" "application/json" Reader.text)

/-- The field of an identifier or a description, if there is one. -/
def textField (name : String) : Option String → List (String × Json)
  | some s => [(name, .string s)]
  | none => []

def Header.toJson (h : Header) : Json :=
  .object [("key", .string h.key), ("value", .string h.value)]

def Response.toJson (r : Response) : Json :=
  .object (textField "id" r.id ++ [("name", .string r.name)] ++
    textField "description" r.description ++
    [("statusCode", .ofNat r.statusCode), ("body", .string r.body),
      ("headers", .array (r.headers.map Header.toJson)),
      ("rules", .array (r.rules.map Rule.toJson)), ("delay", .ofNat r.delay),
      ("disableTemplating", .bool r.disableTemplating),
      ("strictTemplateErrors", .bool r.strictTemplateErrors),
      ("allowResponseCaching", .bool r.allowResponseCaching)])

def Route.toJson (r : Route) : Json :=
  .object (textField "id" r.id ++
    [("urlTemplate", .string r.urlTemplate), ("httpMethod", .string r.methods.joined),
      ("responses", .array (r.responses.map Response.toJson)),
      ("responseSelectionStrategy", .string r.strategy.name), ("enabled", .bool r.enabled)])

def Environment.toJson (e : Environment) : Json :=
  .object (textField "id" e.id ++
    [("name", .string e.name), ("isActive", .bool e.isActive),
      ("routes", .array (e.routes.map Route.toJson))])

def Settings.toJson (s : Settings) : Json :=
  .object [("logMatches", .bool s.logMatches), ("logUnmatched", .bool s.logUnmatched),
    ("defaultContentType", .string s.defaultContentType)]

end Config

namespace Configuration

def read : Config.ConfigReader Configuration :=
  Fields.read (Configuration.mk
    <$> .defaulted 0 "environments" [] (Reader.list Config.Environment.read)
    <*> .defaulted 1 "settings" {} Config.Settings.read)

def toJson (c : Configuration) : Json :=
  .object [("environments", .array (c.environments.map Config.Environment.toJson)),
    ("settings", c.settings.toJson)]

end Configuration

end StubServer
