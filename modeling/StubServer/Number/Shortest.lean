import StubServer.Number.Binary

/-!
# Shortest decimal digits

The decimal with the fewest digits among those that a reader rounds to a given double, and of
these the nearest. All comparisons are between natural numbers.
-/

namespace StubServer

namespace Number

/-- The value `digits * 10 ^ exponent`. -/
structure Decimal where
  digits : Nat
  exponent : Int
deriving DecidableEq

/-- A positive double with the middles between it and its neighbours, all over one power of two:
the numbers that are read as the double are those between the middles. -/
structure Interval where
  low : Nat
  value : Nat
  high : Nat
  exponent : Int
  closed : Bool

/-- The distance to the neighbour below is half as long at a power of two. -/
def Interval.ofBits (bits : UInt64) : Interval :=
  let b := Binary.ofBits bits
  let step := if fractionBits bits = 0 && 1 < exponentBits bits then 1 else 2
  ⟨4 * b.mantissa - step, 4 * b.mantissa, 4 * b.mantissa + 2, b.exponent - 2, b.mantissa % 2 == 0⟩

/-- `10 ^ k` times a natural number equals a natural number over `2 ^ -e`: the two factors. -/
structure Grid where
  binary : Nat
  decimal : Nat

/-- The factors that bring `n * 2 ^ e` and `d * 10 ^ k` to one scale. -/
def Grid.of (e k : Int) : Grid :=
  ⟨Nat.pow 2 e.toNat * Nat.pow 10 (-k).toNat, Nat.pow 10 k.toNat * Nat.pow 2 (-e).toNat⟩

/-- The point `d` of the grid lies in the interval. -/
def Interval.holds (i : Interval) (g : Grid) (d : Nat) : Bool :=
  let x := d * g.decimal
  let a := i.low * g.binary
  let b := i.high * g.binary
  if i.closed then a ≤ x && x ≤ b else a < x && x < b

/-- The neighbour of the value on the grid that lies in the interval; of two the nearer, and of
two equally near the upper. -/
def Interval.nearest? (i : Interval) (g : Grid) : Option Nat :=
  let v := i.value * g.binary
  let d := v / g.decimal
  match i.holds g d, i.holds g (d + 1) with
  | true, true => if v - d * g.decimal < (d + 1) * g.decimal - v then some d else some (d + 1)
  | true, false => some d
  | false, true => some (d + 1)
  | false, false => none

/-- The power of ten at or below a positive value `n * 2 ^ e`. -/
def leadingExponent (n : Nat) (e : Int) : Int :=
  let a := n * Nat.pow 2 e.toNat
  let b := Nat.pow 2 (-e).toNat
  if b ≤ a then ((Nat.toDigits 10 (a / b)).length : Int) - 1
  else
    let j := (Nat.toDigits 10 (b / a)).length - 1
    if b ≤ a * Nat.pow 10 j then -j else -(j + 1)

/-- Tries the grids of `count`, `count + 1`, … digits; the last grid is taken as it is. -/
def Interval.search (i : Interval) (top : Int) (count : Nat) : Nat → Decimal
  | 0 => ⟨i.value * (Grid.of i.exponent (top + 1 - count)).binary /
      (Grid.of i.exponent (top + 1 - count)).decimal, top + 1 - count⟩
  | fuel + 1 =>
    match i.nearest? (Grid.of i.exponent (top + 1 - count)) with
    | some d => ⟨d, top + 1 - count⟩
    | none => i.search top (count + 1) fuel

/-- Takes the zeros at the end of the digits into the exponent. -/
def Decimal.strip (digits : Nat) (exponent : Int) : Nat → Decimal
  | 0 => ⟨digits, exponent⟩
  | fuel + 1 =>
    if digits ≠ 0 ∧ digits % 10 = 0 then strip (digits / 10) (exponent + 1) fuel
    else ⟨digits, exponent⟩

/-- The shortest decimal that reads back as a positive finite double. -/
def shortest (bits : UInt64) : Decimal :=
  let i := Interval.ofBits bits
  let d := i.search (leadingExponent i.value i.exponent) 1 17
  Decimal.strip d.digits d.exponent 20

end Number

end StubServer
