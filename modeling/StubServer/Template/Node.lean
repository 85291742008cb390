import StubServer.Template.Token

/-!
# Nodes of a template

The tree that a template's tokens form, and what can be wrong with the tokens.
-/

namespace StubServer

namespace Template

inductive Node where
  | text (s : String)
  /-- A quoted text or a number, as it is written. -/
  | literal (s : String)
  | variable (name : String)
  | function (name : String) (params : List Node)
  | block (name : String) (params body : List Node)
deriving Inhabited

/-- What a place in the token stream calls for. -/
inductive Expected where
  | content
  | item
  | token (kind : TokenKind)
deriving DecidableEq

def Expected.describe : Expected → String
  | content => "text or '\x7b\x7b'"
  | item => "a literal, variable, function or '('"
  | token kind => kind.name

inductive ParseError where
  | tooManyNodes
  | blockInSubExpression (name : String)
  | mismatchedBlockEnd (expected found : String)
  | unclosedBlock (name : String)
  | unexpectedBlockEnd (name : String)
  | unexpectedToken (expected : Expected) (found : TokenKind)
  /-- The bound on the reader's steps was reached; no stream of tokens needs as many. -/
  | exhausted
deriving DecidableEq

def ParseError.message : ParseError → String
  | tooManyNodes => "expression contains more nodes than expected"
  | blockInSubExpression name => s!"block '{name}' can't be used inside a sub-expression"
  | mismatchedBlockEnd expected found => s!"block '{expected}' closed by '/{found}'"
  | unclosedBlock name => s!"block '{name}' is never closed"
  | unexpectedBlockEnd name => s!"unexpected block end '/{name}'"
  | unexpectedToken expected found => s!"expected {expected.describe}, but got {found.name}"
  | exhausted => "expression is nested too deeply"

end Template

end StubServer
