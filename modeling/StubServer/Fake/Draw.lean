import StubServer.Fake.Making
import StubServer.Fake.Words
import StubServer.Number.Integer
import StubServer.Text.Ascii
import StubServer.Text.Split

/-!
# Draws of made-up data

Draws of words, codes and texts. Parts of a text are drawn from left to right.
-/

namespace StubServer

namespace Fake

open Making (pick)

/-- The parts drawn in order and put together. -/
def concat : List (Making String) → Making String
  | [] => return ""
  | part :: parts => return (← part) ++ (← concat parts)

/-- A number of draws with a separator between neighbours. -/
def joined (separator : String) (count : Nat) (draw : Making String) : Making String :=
  return Text.join separator (← Making.times draw count)

/-- Puts a drawn character in the place of each occurrence of the mark. -/
def fill (mark : Char) (draw : Making Char) : List Char → Making (List Char)
  | [] => return []
  | c :: cs => do
    let d ← if c = mark then draw else pure c
    return d :: (← fill mark draw cs)

def digit : Making Char :=
  return Char.ofNat ('0'.toNat + (← Making.belowSmall 10))

def capital : Making Char :=
  return Char.ofNat ('A'.toNat + (← Making.belowSmall 26))

def smallLetter : Making Char :=
  return Char.ofNat ('a'.toNat + (← Making.belowSmall 26))

/-- A digit for every number sign. -/
def digitsFor (pattern : String) : Making String :=
  return .ofList (← fill '#' digit pattern.toList)

/-- A capital letter for every question mark. -/
def lettersFor (pattern : String) : Making String :=
  return .ofList (← fill '?' capital pattern.toList)

def letters (count : Nat) : Making String :=
  return .ofList (← Making.times smallLetter count)

def alphanumerics : List Char :=
  "abcdefghijklmnopqrstuvwxyz0123456789".toList

def alphanumeric (count : Nat) : Making String :=
  return .ofList (← Making.times (pick alphanumerics) count)

/-- A number in hexadecimal digits. -/
def hex (draw : Making Nat) (width : Nat) : Making String :=
  return Number.toHex (← draw) width

/-- A number from `low` on, out of `count` of them. -/
def numeral (low count : Nat) : Making String :=
  return toString (low + (← Making.below32 count))

/-- A random identifier of version 4. -/
def uuid : Making String := do
  let a ← Random.word32
  let b ← Random.bits 16
  let c ← Random.bits 16
  let d ← Random.bits 16
  let e ← Random.word64
  return Text.join "-" [Number.toHex a 8, Number.toHex b 4, "4" ++ Number.toHex (c % 0x1000) 3,
    Number.toHex (0x8000 + d % 0x4000) 4, Number.toHex (e % 0x1000000000000) 12]

/-- The digits, from the last one on, weighted by 3 and 1 in turn and added up in 32 bits. -/
def weighted (weight : Nat) : List Nat → UInt32
  | [] => 0
  | d :: ds => .ofNat (weight * d) + weighted (4 - weight) ds

/-- The digit that makes the weighted sum of all digits divisible by ten, unless there are so many
that the sum of those in front of it does not fit in 32 bits. -/
def checkDigit (digits : List Nat) : Nat :=
  (10 - (weighted 3 digits.reverse).toNat % 10) % 10

/-- An article number of a length, the last of its digits being the check digit. -/
def articleNumber (length : Nat) : Making String := do
  let digits ← Making.times (Making.below32 10) (length - 1)
  return .ofList ((digits ++ [checkDigit digits]).map fun d => Char.ofNat ('0'.toNat + d))

def streetName : Making String :=
  concat [pick lastNames, pure " ", pick streetSuffixes]

def buildingNumber : Making String := do
  digitsFor (← pick ["##", "###", "####"])

def streetAddress : Making String :=
  concat [buildingNumber, pure " ", streetName]

def city : Making String :=
  concat [pick cityPrefixes, pick citySuffixes]

def address : Making String :=
  concat [streetAddress, pure ", ", city, pure ", ", Prod.fst <$> pick states, pure " ",
    digitsFor "#####"]

def fullName : Making String :=
  concat [pick firstNames, pure " ", pick lastNames]

def userName : Making String := do
  let first ← pick firstNames
  let last ← pick lastNames
  match ← Making.below32 3 with
  | 0 => return first ++ "." ++ last
  | 1 => concat [pure (first ++ "_" ++ last), numeral 1 99]
  | _ => concat [pure first, numeral 1 999]

def email (domains : List String) : Making String :=
  concat [userName, pure "@", pick domains]

def domainWord : Making String :=
  Text.asciiLower <$> pick lastNames

def domainName : Making String :=
  concat [domainWord, pure ".", pick domainSuffixes]

def url : Making String :=
  concat [pick ["http", "https"], pure "://", domainName]

def byte : Making String :=
  toString <$> Random.bits 8

def port : Making Nat :=
  return 1024 + (← Making.belowSmall (65536 - 1024))

/-- A number that a host's address may begin or end with. -/
def hostByte : Making String :=
  return toString (1 + (← Making.belowSmall 254))

def ipv4 : Making String :=
  concat [hostByte, pure ".", byte, pure ".", byte, pure ".", hostByte]

def ipv6 : Making String :=
  joined ":" 8 (hex (Random.bits 16) 1)

/-- The segments of a path from the root, each with its slash. -/
def rootedPath : Making String := do
  joined "" (1 + (← Making.below32 3)) (concat [pure "/", pick fillerWords])

def words (count : Nat) : Making String :=
  joined " " count (pick fillerWords)

def capitalised (s : String) : String :=
  match s.toList with
  | [] => ""
  | c :: cs => .ofList (c.toUpper :: cs)

def sentence : Making String := do
  let count := 3 + (← Making.below64 8)
  return capitalised (← words count) ++ "."

def sentences (separator : String) (count : Nat) : Making String :=
  joined separator count sentence

/-- From `least` on, out of `choices` numbers of sentences. -/
def someSentences (separator : String) (least choices : Nat) : Making String := do
  sentences separator (least + (← Making.below64 choices))

/-- A decimal rounded to places, a half away from zero. -/
def rounded (x : Float) (places : Nat) : Float :=
  let factor := Float.ofNat (Nat.pow 10 places)
  (x * factor).round / factor

end Fake

end StubServer
