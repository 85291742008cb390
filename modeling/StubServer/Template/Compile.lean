import StubServer.Template.Parse
import StubServer.Template.Scan

/-!
# Templates

A template is a source made ready for rendering. A source without double braces is static text;
one that is wrong is an error in strict mode and static text otherwise.
-/

namespace StubServer

namespace Template

inductive CompileError where
  | lex (e : LexError Nat)
  | parse (e : ParseError)
deriving DecidableEq

def CompileError.message : CompileError → String
  | lex e => s!"lex error: {e.message}"
  | parse e => s!"parse error: {e.message}"

inductive Compiled where
  | static (text : String)
  | nodes (nodes : List Node)
deriving Inhabited

def Compiled.isStatic : Compiled → Bool
  | static _ => true
  | nodes _ => false

/-- The nodes of a source. -/
def compileNodes (source : String) : Except CompileError (List Node) := do
  let tokens ← (tokenize source).mapError .lex
  (parse tokens).mapError .parse

/-- The source holds the braces that open an expression. -/
def hasExpression (source : String) : Bool :=
  Text.occursIn ['\x7b', '\x7b'] source.toList

def compile (source : String) (strict : Bool) : Except CompileError Compiled :=
  if !hasExpression source then .ok (.static source)
  else
    match compileNodes source with
    | .ok nodes => .ok (.nodes nodes)
    | .error e => if strict then .error e else .ok (.static source)

end Template

end StubServer
