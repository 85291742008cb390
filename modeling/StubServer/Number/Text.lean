import StubServer.Number.Integer
import StubServer.Number.Shortest
import StubServer.Text.Case

/-!
# Numbers as text

A number is written with the fewest digits that read back, in positions and without an exponent.
It is read from an optional sign, digits with an optional point and an optional exponent, or one
of the words for infinity and for no number.
-/

namespace StubServer

namespace Number

/-- The digits of a decimal in positions. -/
def Decimal.positional (d : Decimal) : String :=
  let digits := Nat.toDigits 10 d.digits
  if 0 ≤ d.exponent then .ofList (digits ++ List.replicate d.exponent.toNat '0')
  else
    let places := (-d.exponent).toNat
    let padded := List.replicate (places + 1 - digits.length) '0' ++ digits
    let whole := padded.length - places
    .ofList (padded.take whole ++ '.' :: padded.drop whole)

/-- The words that stand for what has no digits. -/
structure Words where
  nan : String
  infinity : String
  minusInfinity : String
  minusZero : String

/-- The text of a number, with the given words for the special values. -/
def write (w : Words) (x : Float) : String :=
  if x.isNaN then w.nan
  else if x.isInf then if x < 0 then w.minusInfinity else w.infinity
  else if x == 0 then if signBit x.toBits then w.minusZero else "0"
  else if x < 0 then "-" ++ (shortest (-x).toBits).positional
  else (shortest x.toBits).positional

/-- In rendered text a zero has no sign and infinity is spelled out. -/
def renderedWords : Words :=
  ⟨"NaN", "Infinity", "-Infinity", "0"⟩

/-- Every double has a text of its own, infinity in short. -/
def exactWords : Words :=
  ⟨"NaN", "inf", "-inf", "-0"⟩

/-- `digits * 10 ^ exponent` as a double. Magnitudes beyond every double are decided from the
number of digits, so that no power of ten of such a size is formed. -/
def ofDecimal (digits : Nat) (exponent : Int) : Float :=
  if digits = 0 then 0
  else
    let size := ((Nat.toDigits 10 digits).length : Int) + exponent
    if 310 < size then 1 / 0
    else if size < -330 then 0
    else Float.ofScientific digits (decide (exponent < 0)) exponent.natAbs

/-- Reads the exponent that may follow the digits. -/
def readExponent? : List Char → Option Int
  | [] => some 0
  | c :: cs =>
    if c = 'e' || c = 'E' then readInteger? cs else none

/-- Reads digits, a point and digits, with at least one digit, and an exponent. -/
def readUnsigned? (cs : List Char) : Option Float :=
  let whole := cs.takeWhile Text.isDigit
  let rest := cs.dropWhile Text.isDigit
  let (fraction, rest) :=
    match rest with
    | '.' :: rest => (rest.takeWhile Text.isDigit, rest.dropWhile Text.isDigit)
    | _ => ([], rest)
  if whole.isEmpty && fraction.isEmpty then none
  else (readExponent? rest).map fun e =>
    ofDecimal (ofDigits (whole ++ fraction)) (e - fraction.length)

def readMagnitude? (cs : List Char) : Option Float :=
  match cs.map Char.toLower with
  | ['i', 'n', 'f'] => some (1 / 0)
  | ['i', 'n', 'f', 'i', 'n', 'i', 't', 'y'] => some (1 / 0)
  | ['n', 'a', 'n'] => some (0 / 0)
  | _ => readUnsigned? cs

/-- Reads a number. -/
def read? (cs : List Char) : Option Float :=
  match cs with
  | '-' :: rest => (readMagnitude? rest).map fun x => -x
  | '+' :: rest => readMagnitude? rest
  | _ => readMagnitude? cs

end Number

end StubServer
