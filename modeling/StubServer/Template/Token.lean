/-!
# Tokens of a template

Outside of double braces a template is text. Between them stand literals, names with their signs
and parentheses. A stream of tokens ends with one end mark.
-/

namespace StubServer

namespace Template

inductive TokenKind where
  | text
  | exprStart
  | exprEnd
  | subExprStart
  | subExprEnd
  | blockStart
  | blockEnd
  | functionName
  | string
  | number
  | varIdentifier
  | eof
deriving DecidableEq

def TokenKind.name : TokenKind → String
  | text => "Text"
  | exprStart => "ExprStart"
  | exprEnd => "ExprEnd"
  | subExprStart => "SubExprStart"
  | subExprEnd => "SubExprEnd"
  | blockStart => "BlockStart"
  | blockEnd => "BlockEnd"
  | functionName => "FunctionName"
  | string => "String"
  | number => "Number"
  | varIdentifier => "VarIdentifier"
  | eof => "Eof"

def TokenKind.all : List TokenKind :=
  [text, exprStart, exprEnd, subExprStart, subExprEnd, blockStart, blockEnd, functionName, string,
    number, varIdentifier, eof]

/-- A token; its text is without quotes and without the sign that begins a name. -/
structure Token where
  kind : TokenKind
  text : String
deriving DecidableEq

namespace Token

def exprStart : Token := ⟨.exprStart, "\x7b\x7b"⟩

def exprEnd : Token := ⟨.exprEnd, "\x7d\x7d"⟩

def subExprStart : Token := ⟨.subExprStart, "("⟩

def subExprEnd : Token := ⟨.subExprEnd, ")"⟩

def eof : Token := ⟨.eof, ""⟩

end Token

/-- What is wrong with a template's text, and where. -/
inductive LexError (Position : Type) where
  | unterminatedExpression (start : Position)
  | unterminatedString (quote : Position)
  | emptyVariableName (sign : Position)
  | emptyBlockName (sign : Position)
  | invalidNumber (start : Position)
  | unexpectedCharacter (c : Char) (place : Position)
deriving DecidableEq

namespace LexError

variable {α β : Type}

def map (f : α → β) : LexError α → LexError β
  | unterminatedExpression p => .unterminatedExpression (f p)
  | unterminatedString p => .unterminatedString (f p)
  | emptyVariableName p => .emptyVariableName (f p)
  | emptyBlockName p => .emptyBlockName (f p)
  | invalidNumber p => .invalidNumber (f p)
  | unexpectedCharacter c p => .unexpectedCharacter c (f p)

def position : LexError α → α
  | unterminatedExpression p => p
  | unterminatedString p => p
  | emptyVariableName p => p
  | emptyBlockName p => p
  | invalidNumber p => p
  | unexpectedCharacter _ p => p

/-- The wording of an error at a byte offset. -/
def message : LexError Nat → String
  | unterminatedExpression n => s!"expression opened at offset {n} is never closed"
  | unterminatedString n => s!"string literal starting at offset {n} is never closed"
  | emptyVariableName n => s!"variable name at offset {n} can't be empty"
  | emptyBlockName n => s!"block name at offset {n} can't be empty"
  | invalidNumber n => s!"invalid number at offset {n}"
  | unexpectedCharacter c n => s!"unexpected character '{c}' at offset {n}"

end LexError

end Template

end StubServer
