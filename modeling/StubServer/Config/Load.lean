import StubServer.Config.Document
import StubServer.Config.Validate
import StubServer.Json.Parse
import StubServer.Yaml.Block

/-!
# Loading configurations

A configuration's text is read and the configuration is then validated.
-/

namespace StubServer

/-- Why a configuration could not be loaded. -/
inductive LoadError where
  | json (e : ReadError Config.Misuse)
  | yaml
  | invalid (e : ConfigError)
deriving DecidableEq

namespace Configuration

/-- Reads a configuration that need not be valid. -/
def ofJsonText (text : String) : Except (ReadError Config.Misuse) Configuration := do
  let (d, complete) := Document.ofJsonText text
  let c ← Configuration.read d
  if complete then return c else .error .malformed

def ofBlockText? (text : String) : Option Configuration := do
  (Configuration.read (← Document.ofBlockText? text)).toOption

def loadJson (text : String) : Except LoadError Configuration := do
  let c ← (ofJsonText text).mapError .json
  c.validate.mapError .invalid
  return c

def loadYaml (text : String) : Except LoadError Configuration := do
  match ofBlockText? text with
  | none => .error .yaml
  | some c =>
    c.validate.mapError .invalid
    return c

end Configuration

end StubServer
