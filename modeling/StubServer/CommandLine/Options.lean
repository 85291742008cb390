import StubServer.Number.Integer
import StubServer.Text.Ascii
import StubServer.Text.Split

/-!
# Command line arguments

Options have a long name and some a short one. The value of an option follows it as the next
argument or is attached to it. Arguments are read from left to right up to the first that is wrong
or asks for help or for the version.
-/

namespace StubServer

namespace CommandLine

inductive LogLevel where
  | error
  | warn
  | info
  | debug
  | trace
deriving DecidableEq

/-- A level by its name in any case, or by its number from 1. -/
def LogLevel.read? (text : String) : Option LogLevel :=
  let byNumber :=
    match Number.readInteger? text.toList with
    | some 1 => some error
    | some 2 => some warn
    | some 3 => some info
    | some 4 => some debug
    | some 5 => some trace
    | _ => none
  let byName :=
    match Text.asciiLower text with
    | "error" => some error
    | "warn" => some warn
    | "info" => some info
    | "debug" => some debug
    | "trace" => some trace
    | _ => none
  byNumber <|> byName

structure Options where
  config : Option String := none
  logLevel : Option LogLevel := none
  printConfig : Bool := false
  validate : Bool := false
deriving DecidableEq

/-- The configuration that is used when none is named. -/
def defaultConfigPath : String := "mock-server.json"

def Options.configPath (o : Options) : String :=
  o.config.getD defaultConfigPath

/-- What the arguments ask for. -/
inductive Invocation where
  | run (o : Options)
  | help
  | version
  | misuse
deriving DecidableEq

inductive OptionName where
  | config
  | logLevel
  | printConfig
  | validate
  | help
  | version
deriving DecidableEq

namespace OptionName

def takesValue : OptionName → Bool
  | config | logLevel => true
  | _ => false

def ofLong? (name : String) : Option OptionName :=
  match name with
  | "config" => some config
  | "log-level" => some logLevel
  | "print-config" => some printConfig
  | "validate" => some validate
  | "help" => some help
  | "version" => some version
  | _ => none

def ofShort? (c : Char) : Option OptionName :=
  match c with
  | 'c' => some config
  | 'L' => some logLevel
  | 'h' => some help
  | 'V' => some version
  | _ => none

end OptionName

/-- Sets an option that takes a value; it must not be set yet. -/
def Options.setValue? (o : Options) (name : OptionName) (value : String) : Option Options :=
  match name with
  | .config =>
    if o.config.isSome || value = "" then none else some { o with config := some value }
  | .logLevel =>
    if o.logLevel.isSome then none
    else (LogLevel.read? value).map fun level => { o with logLevel := some level }
  | _ => none

/-- Sets an option that takes no value; it must not be set yet. -/
def Options.setFlag? (o : Options) (name : OptionName) : Option Options :=
  match name with
  | .printConfig => if o.printConfig then none else some { o with printConfig := true }
  | .validate => if o.validate then none else some { o with validate := true }
  | _ => none

/-- The next argument may be the value of an option. -/
def isValue (arg : String) : Bool :=
  arg = "-" || !Text.startsWith arg "-"

/-- An option on its own, with its value attached, or something else. -/
inductive Argument where
  | long (name : String) (value : Option String)
  /-- The letters behind a single hyphen, the first of them and the others. -/
  | short (letter : Char) (rest : List Char)
  /-- Two hyphens, behind which no options stand. -/
  | endOfOptions
  | other

def Argument.read (arg : String) : Argument :=
  match arg.toList with
  | ['-', '-'] => .endOfOptions
  | '-' :: '-' :: rest =>
    match Text.cutAt? '=' rest with
    | some (name, value) => .long (.ofList name) (some (.ofList value))
    | none => .long (.ofList rest) none
  | '-' :: c :: rest => .short c rest
  | _ => .other

/-- What a list of arguments asks for behind options that were read before. -/
def readArguments (o : Options) : List String → Invocation
  | [] => .run o
  | arg :: args =>
    let flag (name : OptionName) : Invocation :=
      match name with
      | .help => .help
      | .version => .version
      | _ => (o.setFlag? name).elim .misuse (readArguments · args)
    let attached (name : OptionName) (value : String) : Invocation :=
      (o.setValue? name value).elim .misuse (readArguments · args)
    let next (name : OptionName) : Invocation :=
      match args with
      | value :: args =>
        if isValue value then (o.setValue? name value).elim .misuse (readArguments · args)
        else .misuse
      | [] => .misuse
    match Argument.read arg with
    | .endOfOptions => if args.isEmpty then .run o else .misuse
    | .other => .misuse
    | .long name value =>
      match OptionName.ofLong? name, value with
      | none, _ => .misuse
      | some name, some value => if name.takesValue then attached name value else .misuse
      | some name, none => if name.takesValue then next name else flag name
    | .short c rest =>
      match OptionName.ofShort? c, rest with
      | none, _ => .misuse
      | some name, [] => if name.takesValue then next name else flag name
      | some name, d :: rest =>
        if name.takesValue then
          attached name (.ofList (if d = '=' then rest else d :: rest))
        else flag name

def read (args : List String) : Invocation :=
  readArguments {} args

end CommandLine

end StubServer
