/-!
# Binary numbers in 64 bits

A finite double is a sign and a natural number times a power of two. The exact operations on
that form: the remainder of a division, rounding to an integer and moving one step down.
-/

namespace StubServer

namespace Number

/-- The value `mantissa * 2 ^ exponent`, negated when `negative`. -/
structure Binary where
  negative : Bool
  mantissa : Nat
  exponent : Int

/-- The bit above the fraction, which is not written when the exponent is not 0. -/
def leadingBit : Nat := 0x10000000000000

/-- The bits below the exponent. -/
def fractionBits (bits : UInt64) : Nat :=
  bits.toNat % leadingBit

/-- The exponent's eleven bits. -/
def exponentBits (bits : UInt64) : Nat :=
  bits.toNat / leadingBit % 0x800

def signBit (bits : UInt64) : Bool :=
  bits.toNat.testBit 63

/-- The exact value of a finite double. -/
def Binary.ofBits (bits : UInt64) : Binary :=
  if exponentBits bits = 0 then ⟨signBit bits, fractionBits bits, -1074⟩
  else ⟨signBit bits, leadingBit + fractionBits bits, (exponentBits bits : Int) - 1075⟩

def Binary.ofFloat (x : Float) : Binary :=
  .ofBits x.toBits

/-- The double nearest to the value; exact when the mantissa has at most 53 bits and the value is
in range. -/
def Binary.toFloat (b : Binary) : Float :=
  let x := (Float.ofNat b.mantissa).scaleB b.exponent
  if b.negative then -x else x

/-- The remainder of the quotient cut toward zero, with the sign of the dividend. -/
def remainder (x y : Float) : Float :=
  if x.isNaN || y.isNaN || x.isInf || y == 0 then 0 / 0
  else if y.isInf || x == 0 then x
  else
    let a := Binary.ofFloat x
    let b := Binary.ofFloat y
    let e := min a.exponent b.exponent
    let r := a.mantissa * Nat.pow 2 (a.exponent - e).toNat %
      (b.mantissa * Nat.pow 2 (b.exponent - e).toNat)
    Binary.toFloat ⟨a.negative, r, e⟩

/-- The nearest integer; of two equally near the even one. -/
def roundToEven (x : Float) : Float :=
  let below := x.floor
  let rest := x - below
  if rest > 0.5 then x.ceil
  else if rest == 0.5 then
    if (below / 2).floor == below / 2 then below else x.ceil
  else below

/-- A finite number with nothing behind the point. -/
def isWhole (x : Float) : Bool :=
  x.isFinite && x.floor == x

/-- The double just below a positive one. -/
def stepDown (x : Float) : Float :=
  Float.ofBits (x.toBits - 1)

end Number

end StubServer
