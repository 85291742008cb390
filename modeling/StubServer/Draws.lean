import StubServer.Number.Binary
import StubServer.Number.Integer

/-!
# Random words

A source of random words is a stream of 64-bit words and the position reached in it. Every draw
takes the next word; numbers in a range reject some words, so a draw has a bound on the words it
looks at and says so when none of them was acceptable.
-/

namespace StubServer

/-- An endless stream of words, read up to a position. -/
structure Draws where
  word : Nat → UInt64
  position : Nat := 0

namespace Draws

/-- The scrambling of a state of the mixing generator. -/
def mix (z : UInt64) : UInt64 :=
  let z := (z ^^^ (z >>> 30)) * 0xBF58476D1CE4E5B9
  let z := (z ^^^ (z >>> 27)) * 0x94D049BB133111EB
  z ^^^ (z >>> 31)

/-- The given words first, then the words that the mixing generator makes of the seed. -/
def ofSeed (words : Array UInt64) (seed : UInt64) : Draws where
  word n :=
    if h : n < words.size then words[n]
    else mix (seed + (n - words.size + 1).toUInt64 * 0x9E3779B97F4A7C15)

def next64 (d : Draws) : UInt64 × Draws :=
  (d.word d.position, { d with position := d.position + 1 })

/-- The upper half of one word. -/
def next32 (d : Draws) : UInt32 × Draws :=
  ((d.next64.1 >>> 32).toUInt32, d.next64.2)

end Draws

/-- A computation that draws words; `none` when a draw accepted none of the words it looked at. -/
abbrev Random (α : Type) := StateT Draws Option α

namespace Random

/-- The number of words that one draw looks at. -/
def patience : Nat := Number.size32

def word64 : Random Nat := fun d => some (d.next64.1.toNat, d.next64.2)

def word32 : Random Nat := fun d => some (d.next32.1.toNat, d.next32.2)

/-- The lowest bits of half a word. -/
def bits (count : Nat) : Random Nat :=
  return (← word32) % Nat.pow 2 count

/-- The lowest bits of half a word, read in two's complement. -/
def signedBits (count : Nat) : Random Int :=
  return Int.bmod (← word32) (Nat.pow 2 count)

def coin : Random Bool :=
  return (← word32).testBit 31

/-- Draws words of `base` values until one times `range` has a low part up to `zone`; the high
part is the answer. -/
def accept (draw : Random Nat) (base range zone : Nat) : Nat → Random Nat
  | 0 => fun _ => none
  | fuel + 1 => do
    let v ← draw
    if v * range % base ≤ zone then return v * range / base
    else accept draw base range zone fuel

/-- The largest low part accepted: a power of two times the range, less one. -/
def shiftedZone (base range : Nat) : Nat :=
  range * Nat.pow 2 (Nat.log2 base - 1 - Nat.log2 range) - 1

/-- The largest low part accepted when the remainder of all words is rejected exactly. -/
def exactZone (base range : Nat) : Nat :=
  base - 1 - (base - range) % range

/-- A number below `range`, from whole words. -/
def below64 (range : Nat) : Random Nat :=
  accept word64 Number.size64 range (shiftedZone Number.size64 range) patience

/-- A number below `range`, from half words. -/
def below32 (range : Nat) : Random Nat :=
  accept word32 Number.size32 range (shiftedZone Number.size32 range) patience

/-- A number below `range`, from half words, every number equally likely. -/
def belowSmall (range : Nat) : Random Nat :=
  accept word32 Number.size32 range (exactZone Number.size32 range) patience

/-- An integer of 64 bits within the interval, both ends included. When the interval is all of them
the word is the integer in two's complement. -/
def between (low high : Int) : Random Int :=
  if high - low + 1 = Number.size64 then return Int.bmod (← word64) Number.size64
  else return low + (← below64 (high - low + 1).toNat)

/-- A fraction of one, on 53 bits. -/
def fraction : Random Float :=
  return Float.ofNat ((← word64) / 0x800) / Float.ofNat 0x20000000000000

/-- A fraction of one, on 24 bits. -/
def shortFraction : Random Float :=
  return Float.ofNat ((← word32) / 0x100) / Float.ofNat 0x1000000

/-- A fraction of one, on 52 bits. -/
def mantissa : Random Float :=
  return Float.ofNat ((← word64) / 0x1000) / Float.ofNat 0x10000000000000

/-- A number from `low` up to and without `high`. -/
def floatBelow (low high : Float) : Nat → Random Float
  | 0 => fun _ => none
  | fuel + 1 => do
    let x := (← mantissa) * (high - low) + low
    if x < high then return x else floatBelow low high fuel

def largestMantissa : Float :=
  1 - 1 / Float.ofNat 0x10000000000000

/-- Lowers a scale until the largest mantissa stays within the interval. -/
def fitScale (low high scale : Float) : Nat → Float
  | 0 => scale
  | fuel + 1 =>
    if scale * largestMantissa + low > high then fitScale low high (Number.stepDown scale) fuel
    else scale

/-- A number of the interval, both ends included. -/
def floatBetween (low high : Float) : Random Float := do
  let scale := fitScale low high ((high - low) / largestMantissa) 64
  return (← mantissa) * scale + low

/-- An index below a number of items, from half words where that many suffice. -/
def index (count : Nat) : Random Nat :=
  if count < Number.size32 then below32 count else below64 count

/-- A member of a list; `none` of an empty one. -/
def choose? {α : Type} (items : List α) : Random (Option α) :=
  if items.isEmpty then return none
  else return items[← index items.length]?

/-- Exchanges two elements. -/
def exchange {α : Type} (items : Array α) (i j : Nat) : Array α :=
  items.swapIfInBounds i j

/-- Exchanges each element but the first, from the last on down, with one at or before it. -/
def shuffleFrom {α : Type} (items : Array α) : Nat → Random (Array α)
  | 0 => return items
  | i + 1 => do
    let j ← index (i + 2)
    shuffleFrom (exchange items (i + 1) j) i

def shuffle {α : Type} (items : List α) : Random (List α) :=
  return (← shuffleFrom items.toArray (items.length - 1)).toList

end Random

end StubServer
