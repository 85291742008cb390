import StubServer.Text.CaseTable

/-!
# Upper and lower case

The full Unicode mapping of a text to lower and to upper case, and the simple case folding by
which single characters are compared without regard to case.
-/

namespace StubServer

namespace Text

/-- Among the characters on one side of a sigma, nearest first, the first that is not ignored is
cased. -/
def casedNext (cs : List Char) : Bool :=
  match cs.dropWhile (inTable caseIgnorableRanges) with
  | [] => false
  | c :: _ => inTable casedRanges c

/-- The lower case of a character whose neighbours do not matter. -/
def lowerChar (c : Char) : List Char :=
  if c.toNat < 128 then [c.toLower]
  else if c.toNat = 0x130 then ['i', Char.ofNat 0x307]
  else [(shifted? lowerShifts c).getD c]

/-- Lower case after the characters `before`, nearest first; a capital sigma at the end of a word
has a form of its own. -/
def lowerFrom (before : List Char) : List Char → List Char
  | [] => []
  | c :: cs =>
    (if c.toNat = 0x3A3 then
      if casedNext before && !casedNext cs then [Char.ofNat 0x3C2] else [Char.ofNat 0x3C3]
    else lowerChar c) ++ lowerFrom (c :: before) cs

def lower (s : String) : String :=
  .ofList (lowerFrom [] s.toList)

def upperChar (c : Char) : List Char :=
  if c.toNat < 128 then [c.toUpper]
  else
    match longUppers.lookup c.toNat with
    | some ns => ns.map Char.ofNat
    | none => [(shifted? upperShifts c).getD c]

def upper (s : String) : String :=
  .ofList (s.toList.flatMap upperChar)

/-- The simple case folding of a character. -/
def foldChar (c : Char) : Char :=
  if c.toNat < 128 then c.toLower else (shifted? foldShifts c).getD c

/-- The characters with the same folding as `c`. -/
def foldVariants (c : Char) : List Char :=
  let f := foldChar c
  f :: (if f.toNat < 128 then [f.toUpper] else []) ++
    (foldShifts.filterMap fun s => s.source? f.toNat).map Char.ofNat

end Text

end StubServer
