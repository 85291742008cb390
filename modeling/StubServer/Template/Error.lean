import StubServer.Number.Integer

/-!
# Errors of rendering

Why a rendering stops. An error is fatal to the whole rendering.
-/

namespace StubServer

namespace Template

/-- What is wrong with the arguments of a function. Arguments are numbered from 1. -/
inductive ArgumentFault where
  | missing (number : Nat)
  | noString (number : Nat) (typeName : String)
  | noInteger (number : Nat)
  | noArray (number : Nat) (typeName : String)
  | noNumber (number : Nat)
  | noElements
  | emptyArray
  | invalidRange (min max : Int)
  | unknownOrder (word : String)
  | noLength
  | lengthLimit (length : Int)
  | tooFewNumbers
  | tooFewToCompare
  | tooFewArguments
  | decimalsLimit
  | emptyVariableName
  | dateOutOfRange
deriving DecidableEq

/-- The length up to which a text is padded. -/
def maxPadding : Int := 1048576

def ArgumentFault.message : ArgumentFault → String
  | missing n => s!"missing argument #{n}"
  | noString n t => s!"argument #{n} must be a string, got {t}"
  | noInteger n => s!"argument #{n} must be an integer"
  | noArray n t => s!"argument #{n} must be an array, got {t}"
  | noNumber n => s!"argument #{n} must be a number"
  | noElements => "at least one element is required"
  | emptyArray => "array is empty"
  | invalidRange min max => s!"invalid range [{min}, {max}]"
  | unknownOrder word => s!"unknown order '{word}', expected 'asc' or 'desc'"
  | noLength => "length must be an integer"
  | lengthLimit n => s!"length {n} exceeds the limit of {maxPadding}"
  | tooFewNumbers => "two numbers are required"
  | tooFewToCompare => "at least two numbers are required"
  | tooFewArguments => "two arguments are required"
  | decimalsLimit => "decimals must be between 0 and 15"
  | emptyVariableName => "variable name can't be empty"
  | dateOutOfRange => "date is out of range"

/-- The number of iterations that a `repeat` block may have. -/
def maxRepeat : Int := 10000

/-- What is wrong with a block. -/
inductive BlockFault where
  | noCount
  | noIntegerCount (text : String)
  | maxBelowMin (max min : Int)
  | tooMany (count : Int)
  | noArray
  | notArray (typeName : String)
  | noCondition
  | secondElse
  | elsifAfterElse
  | elsifWithoutCondition
deriving DecidableEq

def BlockFault.message : BlockFault → String
  | noCount => "a count is required"
  | noIntegerCount text => s!"count '{text}' is not an integer"
  | maxBelowMin max min => s!"max count {max} is lower than min count {min}"
  | tooMany count => s!"count {count} exceeds the limit of {maxRepeat}"
  | noArray => "an array is required"
  | notArray t => s!"expected an array, got {t}"
  | noCondition => "a condition is required"
  | secondElse => "only one 'else' is allowed"
  | elsifAfterElse => "'elsif' can't follow 'else'"
  | elsifWithoutCondition => "'elsif' needs a condition"

inductive EvalError where
  | undefinedVariable (name : String)
  | undefinedFunction (name : String)
  | invalidArguments (function : String) (fault : ArgumentFault)
  | invalidBlock (block : String) (fault : BlockFault)
  | unknownBlock (name : String)
  | unknownFakerPath (path : String)
  /-- A draw found no acceptable word among all that it looked at, or had nothing to draw from. -/
  | exhaustedDraws
deriving DecidableEq

def EvalError.message : EvalError → String
  | undefinedVariable name => s!"variable '{name}' doesn't exist"
  | undefinedFunction name => s!"function '{name}' is not defined"
  | invalidArguments function fault => s!"{function}: {fault.message}"
  | invalidBlock block fault => s!"#{block}: {fault.message}"
  | unknownBlock name => s!"unknown block '#{name}'"
  | unknownFakerPath path => s!"unknown faker path '{path}'"
  | exhaustedDraws => "no random word was acceptable"

end Template

end StubServer
