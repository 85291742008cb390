import StubServer.Text.Ascii
import StubServer.Text.Split

/-!
# Tables of characters

Sets of code points and shifts of code points, as lists of ranges with a step. A table is
written as rows of words: `61-7a` is a range, `100-12e/2` every second code point of one, and
`c0-d6:32` maps each member to the code point 32 above it. Code points are hexadecimal.
-/

namespace StubServer

namespace Text

/-- The code points `first`, `first + step`, and so on up to `last`. -/
structure Range where
  first : Nat
  last : Nat
  step : Nat

namespace Range

def mem (r : Range) (n : Nat) : Bool :=
  r.first ≤ n && n ≤ r.last && (n - r.first) % r.step == 0

def hexNumber (cs : List Char) : Nat :=
  cs.foldl (fun n c => 16 * n + (hexValue? c).getD 0) 0

def decimalNumber (cs : List Char) : Nat :=
  cs.foldl (fun n c => 10 * n + (c.toNat - '0'.toNat)) 0

/-- Reads one word of a table, without a shift. -/
def ofWord (cs : List Char) : Range :=
  let (ends, step) := (cutAt? '/' cs).elim (cs, 1) fun (a, b) => (a, decimalNumber b)
  match cutAt? '-' ends with
  | some (a, b) => ⟨hexNumber a, hexNumber b, step⟩
  | none => ⟨hexNumber ends, hexNumber ends, 1⟩

def ofRows (rows : List String) : List Range :=
  rows.flatMap fun row => (splitAtChar ' ' row.toList).map ofWord

end Range

/-- A shift of every code point of a range by the same distance. -/
structure Shift where
  range : Range
  distance : Int

namespace Shift

def target? (s : Shift) (n : Nat) : Option Nat :=
  if s.range.mem n then some (n + s.distance).toNat else none

/-- The code point that the shift takes to `n`. -/
def source? (s : Shift) (n : Nat) : Option Nat :=
  let m := (n - s.distance).toNat
  if s.range.mem m then some m else none

def decimalInteger (cs : List Char) : Int :=
  match cs with
  | '-' :: rest => -(Range.decimalNumber rest)
  | _ => Range.decimalNumber cs

def ofWord (cs : List Char) : Shift :=
  match cutAt? ':' cs with
  | some (a, b) => ⟨Range.ofWord a, decimalInteger b⟩
  | none => ⟨Range.ofWord cs, 0⟩

def ofRows (rows : List String) : List Shift :=
  rows.flatMap fun row => (splitAtChar ' ' row.toList).map ofWord

end Shift

def inTable (ranges : List Range) (c : Char) : Bool :=
  ranges.any fun r => r.mem c.toNat

def shifted? (shifts : List Shift) (c : Char) : Option Char :=
  (shifts.findSome? fun s => s.target? c.toNat).map Char.ofNat

end Text

end StubServer
