import StubServer.Pattern.CategoryTable
import StubServer.Pattern.ScriptTable
import StubServer.Text.Blank
import StubServer.Text.Case

/-!
# Classes of characters

The sets of characters that a pattern can name, as terms: ranges, named properties and their
combinations. Membership is decided on the term.
-/

namespace StubServer

namespace Pattern

open Text (Range)

/-- A general category, or several under one name. -/
structure Category where
  names : List String
  members : List (List Range)

/-- The categories under their short and long names. -/
def categories : List Category := [
  ⟨["lu", "uppercaseletter"], [uppercaseLetters]⟩,
  ⟨["ll", "lowercaseletter"], [lowercaseLetters]⟩,
  ⟨["lt", "titlecaseletter"], [titlecaseLetters]⟩,
  ⟨["lc", "casedletter"], [uppercaseLetters, lowercaseLetters, titlecaseLetters]⟩,
  ⟨["lm", "modifierletter"], [modifierLetters]⟩,
  ⟨["lo", "otherletter"], [otherLetters]⟩,
  ⟨["l", "letter"],
    [uppercaseLetters, lowercaseLetters, titlecaseLetters, modifierLetters, otherLetters]⟩,
  ⟨["mn", "nonspacingmark"], [nonspacingMarks]⟩,
  ⟨["mc", "spacingmark"], [spacingMarks]⟩,
  ⟨["me", "enclosingmark"], [enclosingMarks]⟩,
  ⟨["m", "mark", "combiningmark"], [nonspacingMarks, spacingMarks, enclosingMarks]⟩,
  ⟨["nd", "decimalnumber", "digit"], [decimalNumbers]⟩,
  ⟨["nl", "letternumber"], [letterNumbers]⟩,
  ⟨["no", "othernumber"], [otherNumbers]⟩,
  ⟨["n", "number"], [decimalNumbers, letterNumbers, otherNumbers]⟩,
  ⟨["pc", "connectorpunctuation"], [connectorPunctuation]⟩,
  ⟨["pd", "dashpunctuation"], [dashPunctuation]⟩,
  ⟨["ps", "openpunctuation"], [openPunctuation]⟩,
  ⟨["pe", "closepunctuation"], [closePunctuation]⟩,
  ⟨["pi", "initialpunctuation"], [initialPunctuation]⟩,
  ⟨["pf", "finalpunctuation"], [finalPunctuation]⟩,
  ⟨["po", "otherpunctuation"], [otherPunctuation]⟩,
  ⟨["p", "punctuation", "punct"],
    [connectorPunctuation, dashPunctuation, openPunctuation, closePunctuation,
      initialPunctuation, finalPunctuation, otherPunctuation]⟩,
  ⟨["sm", "mathsymbol"], [mathSymbols]⟩,
  ⟨["sc", "currencysymbol"], [currencySymbols]⟩,
  ⟨["sk", "modifiersymbol"], [modifierSymbols]⟩,
  ⟨["so", "othersymbol"], [otherSymbols]⟩,
  ⟨["s", "symbol"], [mathSymbols, currencySymbols, modifierSymbols, otherSymbols]⟩,
  ⟨["zs", "spaceseparator"], [spaceSeparators]⟩,
  ⟨["zl", "lineseparator"], [lineSeparators]⟩,
  ⟨["zp", "paragraphseparator"], [paragraphSeparators]⟩,
  ⟨["z", "separator"], [spaceSeparators, lineSeparators, paragraphSeparators]⟩,
  ⟨["cc", "control", "cntrl"], [controls]⟩,
  ⟨["cf", "format"], [formats]⟩,
  ⟨["co", "privateuse"], [privateUse]⟩,
  ⟨["cn", "unassigned"], [unassigned]⟩,
  ⟨["c", "other"], [controls, formats, privateUse, unassigned]⟩,
  ⟨["any"], [[⟨0, 0x10FFFF, 1⟩]]⟩,
  ⟨["ascii"], [[⟨0, 0x7F, 1⟩]]⟩]

/-- Letters, marks, decimal digits, connectors and joiners. -/
def isWordChar (c : Char) : Bool :=
  if c.toNat < 128 then Text.isLetter c || Text.isDigit c || c == '_'
  else
    [lowercaseLetters, uppercaseLetters, otherLetters, titlecaseLetters, modifierLetters,
      nonspacingMarks, spacingMarks, enclosingMarks, decimalNumbers, letterNumbers,
      connectorPunctuation, [⟨0x200C, 0x200D, 1⟩, ⟨0x24B6, 0x24E9, 1⟩, ⟨0x1F130, 0x1F149, 1⟩,
        ⟨0x1F150, 0x1F169, 1⟩, ⟨0x1F170, 0x1F189, 1⟩]].any fun t => Text.inTable t c

def isDecimalDigit (c : Char) : Bool :=
  if c.toNat < 128 then Text.isDigit c else Text.inTable decimalNumbers c

/-- A set of characters. A property is kept by the kind and place of its table. -/
inductive CharClass where
  | none
  | range (first last : Char)
  | digit
  | blank
  | word
  | category (index : Nat)
  | script (index : Nat)
  | property (index : Nat)
  | assigned
  | union (a b : CharClass)
  | inter (a b : CharClass)
  | minus (a b : CharClass)
  | differing (a b : CharClass)
  | complement (a : CharClass)
  | folded (a : CharClass)
deriving DecidableEq

namespace CharClass

def single (c : Char) : CharClass := .range c c

def any : CharClass := .complement .none

def unions (classes : List CharClass) : CharClass :=
  classes.foldl .union .none

/-- The character is in the class. A folded class holds every character that differs from a member
in case alone. -/
def mem : CharClass → Char → Bool
  | none, _ => false
  | range first last, c => first ≤ c && c ≤ last
  | digit, c => isDecimalDigit c
  | blank, c => Text.isBlank c
  | word, c => isWordChar c
  | category i, c => (categories[i]?).any fun k => k.members.any fun t => Text.inTable t c
  | script i, c => (scripts[i]?).any fun p => Text.inTable p.ranges c
  | property i, c => (binaryProperties[i]?).any fun p => Text.inTable p.ranges c
  | assigned, c => !Text.inTable unassigned c
  | union a b, c => a.mem c || b.mem c
  | inter a b, c => a.mem c && b.mem c
  | minus a b, c => a.mem c && !b.mem c
  | differing a b, c => a.mem c != b.mem c
  | complement a, c => !a.mem c
  | folded a, c => a.mem c || (Text.foldVariants c).any a.mem

/-- A name without its separators, its case and a leading "is". -/
def plainName (cs : List Char) : String :=
  let cs := (cs.filter fun c => !(c == ' ' || c == '_' || c == '-')).map Char.toLower
  match cs with
  | 'i' :: 's' :: rest => if rest = ['c'] then "isc" else .ofList rest
  | _ => .ofList cs

def findCategory? (name : String) : Option CharClass :=
  if name = "assigned" then some .assigned
  else (categories.findIdx? fun k => k.names.contains name).map .category

def findScript? (name : String) : Option CharClass :=
  (scripts.findIdx? fun p => p.names.contains name).map .script

def findProperty? (name : String) : Option CharClass :=
  if name = "cf" || name = "sc" || name = "lc" then .none
  else (binaryProperties.findIdx? fun p => p.names.contains name).map .property

/-- The class of a property name: a property proper, else a category, else a script. -/
def ofName? (name : List Char) : Option CharClass :=
  let n := plainName name
  findProperty? n <|> findCategory? n <|> findScript? n

/-- The class of a value of a named property. -/
def ofValue? (name value : List Char) : Option CharClass :=
  let n := plainName name
  let v := plainName value
  if n = "gc" || n = "generalcategory" then findCategory? v
  else if n = "sc" || n = "script" || n = "scx" || n = "scriptextensions" then findScript? v
  else .none

/-- The ASCII classes that a bracketed class names between colons. -/
def ofAsciiName? (name : String) : Option CharClass :=
  let lower := range 'a' 'z'
  let upper := range 'A' 'Z'
  let digits := range '0' '9'
  match name with
  | "alnum" => some (unions [digits, upper, lower])
  | "alpha" => some (unions [upper, lower])
  | "ascii" => some (range (Char.ofNat 0) (Char.ofNat 0x7F))
  | "blank" => some (unions [single '\t', single ' '])
  | "cntrl" => some (unions [range (Char.ofNat 0) (Char.ofNat 0x1F), single (Char.ofNat 0x7F)])
  | "digit" => some digits
  | "graph" => some (range '!' '~')
  | "lower" => some lower
  | "print" => some (range ' ' '~')
  | "punct" => some (unions [range '!' '/', range ':' '@', range '[' (Char.ofNat 0x60),
      range (Char.ofNat 0x7B) '~'])
  | "space" => some (unions [range '\t' '\r', single ' '])
  | "upper" => some upper
  | "word" => some (unions [digits, upper, lower, single '_'])
  | "xdigit" => some (unions [digits, range 'A' 'F', range 'a' 'f'])
  | _ => Option.none

def asciiWord : CharClass :=
  unions [range '0' '9', range 'A' 'Z', range 'a' 'z', single '_']

def asciiBlank : CharClass :=
  unions [range '\t' '\r', single ' ']

end CharClass

end Pattern

end StubServer
