import StubServer.CommandLine.Options
import StubServer.CommandLine.Sample
import StubServer.Config.Load
import StubServer.Server

/-!
# The program

What the program writes and how it ends, for its arguments, the files it finds and its input. Every
line of the input is a request; blank lines, comments and malformed lines are passed over.
-/

namespace StubServer

namespace CommandLine

/-- What is found at a path. -/
inductive FileContent where
  | missing
  | unreadable
  | text (s : String)

/-- The end of the program: its exit code and what it writes before. -/
structure Outcome where
  code : Nat
  output : String
deriving DecidableEq

def success : Nat := 0

def failure : Nat := 1

def misuse : Nat := 2

def versionText : String := "maboroshi-mock-server 0.2.0\n"

def helpText : String := Text.join "\n" [
  "HTTP mock server core - route templates, matching rules and templated stub responses",
  "",
  "Usage: maboroshi-mock-server [OPTIONS]",
  "",
  "Options:",
  "  -c, --config <CONFIG>        " ++
    "Path to configuration file (.json, .yaml or .yml) [default: mock-server.json]",
  "  -L, --log-level <LOG_LEVEL>  Log level (trace, debug, info, warn, error) [default: info]",
  "      --print-config           Print default configuration and exit",
  "      --validate               Validate configuration and exit",
  "  -h, --help                   Print help",
  "  -V, --version                Print version",
  ""]

/-- What follows the last point in the last name of a path, unless the name begins there. -/
def extension? (path : String) : Option String :=
  let name := ((Text.splitAtChar '/' path.toList).filter (!·.isEmpty)).getLast?.getD []
  match Text.cutAt? '.' name.reverse with
  | some (_, []) => none
  | some (ext, _) => some (.ofList ext.reverse)
  | none => none

def isYaml (path : String) : Bool :=
  (extension? path).any fun ext => Text.sameName ext "yaml" || Text.sameName ext "yml"

def load (path text : String) : Except LoadError Configuration :=
  if isYaml path then Configuration.loadYaml text else Configuration.loadJson text

/-- The configuration of the options; a file that is missing stands for an empty one, except when
it is to be validated. -/
def configuration? (o : Options) (file : String → FileContent) : Option Configuration :=
  match file o.configPath with
  | .text text => (load o.configPath text).toOption
  | .unreadable => none
  | .missing => if o.validate then none else some {}

def describe (c : Configuration) : String :=
  s!"Configuration is valid ({c.environments.length} environments, " ++
    s!"{c.activeRoutes.length} active routes)\n"

/-- The program ends at once, or serves requests. -/
inductive Start where
  | ended (o : Outcome)
  | serving (s : Server)

def start (args : List String) (file : String → FileContent) : Start :=
  match read args with
  | .help => .ended ⟨success, helpText⟩
  | .version => .ended ⟨success, versionText⟩
  | .misuse => .ended ⟨misuse, ""⟩
  | .run o =>
    if o.printConfig then .ended ⟨success, sampleConfig ++ "\n"⟩
    else
      match configuration? o file with
      | none => .ended ⟨failure, ""⟩
      | some c =>
        if o.validate then .ended ⟨success, describe c⟩ else .serving (Server.ofConfig c)

/-- The request on a line, if there is one. -/
def lineRequest? (line : String) : Option Http.Request :=
  let line := Text.trim line
  if line = "" || Text.startsWith line "#" then none else (Http.Request.readLine line).toOption

/-- The answers to the requests on the lines. -/
def serveLines (now : Time.Instant) : List String → StateT Server Random String
  | [] => return ""
  | line :: lines =>
    match lineRequest? line with
    | none => serveLines now lines
    | some r => do
      let answer ← Server.handle now r
      return answer.response.write ++ (← serveLines now lines)

/-- Runs the program on an input that is given as a whole. -/
def run (args : List String) (file : String → FileContent) (input : String) (now : Time.Instant) :
    Random Outcome :=
  match start args file with
  | .ended o => return o
  | .serving s => do
    let lines := (Text.splitAtChar '\n' input.toList).map String.ofList
    let (output, _) ← serveLines now lines s
    return ⟨success, output⟩

end CommandLine

end StubServer
