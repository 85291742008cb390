import StubServer.Text.Ascii

/-!
# Integers of fixed width

Reading and writing of integers, and the bounds of the fixed widths the library counts in. An
integer is an `Int` that a reader has checked against its bounds.
-/

namespace StubServer

namespace Number

/-- The number of values of 16 bits. -/
def size16 : Nat := 0x10000

/-- The number of values of 32 bits. -/
def size32 : Nat := 0x100000000

/-- The number of values of 64 bits. -/
def size64 : Nat := 0x10000000000000000

def minInt32 : Int := -0x80000000

def maxInt32 : Int := 0x7FFFFFFF

def minInt64 : Int := -0x8000000000000000

def maxInt64 : Int := 0x7FFFFFFFFFFFFFFF

def fitsInt64 (n : Int) : Bool :=
  minInt64 ≤ n && n ≤ maxInt64

theorem fitsInt64_iff {n : Int} : fitsInt64 n = true ↔ minInt64 ≤ n ∧ n ≤ maxInt64 := by
  simp only [fitsInt64, Bool.and_eq_true, decide_eq_true_eq]

def fitsInt32 (n : Int) : Bool :=
  minInt32 ≤ n && n ≤ maxInt32

/-- The number written by a run of decimal digits. -/
def ofDigits (cs : List Char) : Nat :=
  cs.foldl (fun n c => 10 * n + (c.toNat - '0'.toNat)) 0

/-- Reads an integer: an optional sign, then one or more ASCII digits. -/
def readInteger? (cs : List Char) : Option Int :=
  let digits? (cs : List Char) : Option Nat :=
    if !cs.isEmpty && cs.all Text.isDigit then some (ofDigits cs) else none
  match cs with
  | '-' :: rest => (digits? rest).map fun n => -(n : Int)
  | '+' :: rest => (digits? rest).map Int.ofNat
  | _ => (digits? cs).map Int.ofNat

def readInt64? (cs : List Char) : Option Int :=
  (readInteger? cs).filter fitsInt64

def readInt32? (cs : List Char) : Option Int :=
  (readInteger? cs).filter fitsInt32

/-- The digits of a number in base 16, at least `width` of them. -/
def toHex (n : Nat) (width : Nat) : String :=
  let digits := Nat.toDigits 16 n
  .ofList (List.replicate (width - digits.length) '0' ++ digits)

/-- The decimal digits of a number, at least `width` of them. -/
def toPadded (n : Nat) (width : Nat) : String :=
  let digits := Nat.toDigits 10 n
  .ofList (List.replicate (width - digits.length) '0' ++ digits)

end Number

end StubServer
