/-
Double-precision numbers as integers times powers of two.

A finite double is a mantissa below 2^53 times a power of two, so every
question about its decimal text is one about natural numbers. Rounding a
ratio of natural numbers to the nearest double is exact here: the quotient
is rounded once, half to even, at the place of the last mantissa bit.
-/
import RoutingGateway.Decimal.Numeral

namespace RoutingGateway.Decimal

/-! ## Rounding a ratio -/

/-- The integer nearest to `num / den`; a half goes to the even neighbour. -/
def nearestEven (num den : Nat) : Nat :=
  let quotient := num / den
  let remainder := num % den
  if 2 * remainder < den then quotient
  else if den < 2 * remainder then quotient + 1
  else if quotient % 2 = 0 then quotient
  else quotient + 1

/-- The exponent of the greatest power of two that is at most `num / den`,
for positive `num` and `den`. -/
def floorLog2 (num den : Nat) : Int :=
  let guess : Int := num.log2 - den.log2
  if num <<< (-guess).toNat < den <<< guess.toNat then guess - 1 else guess

/-- The bits of positive infinity. -/
def infinityBits : Nat := 0x7FF0000000000000

/-- The bits of the double nearest to `num / den`. The mantissa is added to
the exponent field, so a carry out of it raises the exponent by itself, and
all that lies beyond the greatest double is infinity. -/
def magnitudeBits (num den : Nat) : Nat :=
  if num = 0 then 0
  else
    let scale := max (floorLog2 num den - 52) (-1074)
    let mantissa := nearestEven (num <<< (-scale).toNat) (den <<< scale.toNat)
    min ((scale + 1074).toNat <<< 52 + mantissa) infinityBits

/-- The bits of a double of this magnitude. Two short cuts keep the powers of
ten small: from 10^401 on everything is infinite, and what is below
2^-1100 is zero. -/
def Magnitude.bits : Magnitude → Nat
  | .infinite => infinityBits
  | .undefined => 0x7FF8000000000000
  | .finite coefficient exponent =>
    if coefficient = 0 then 0
    else if 400 < exponent then infinityBits
    else if (coefficient.log2 : Int) + 1101 < 3 * -exponent then 0
    else if 0 ≤ exponent then magnitudeBits (coefficient * Nat.pow 10 exponent.toNat) 1
    else magnitudeBits coefficient (Nat.pow 10 (-exponent).toNat)

/-- The double nearest to the numeral. -/
def Numeral.toFloat (numeral : Numeral) : Float :=
  Float.ofBits (UInt64.ofNat
    ((if numeral.negative then 0x8000000000000000 else 0) + numeral.magnitude.bits))

/-- Reads a decimal numeral as the double nearest to it. -/
def readFloat? (text : List Char) : Option Float :=
  (Numeral.read? text).map Numeral.toFloat

/-! ## Taking a double apart -/

/-- Sign and magnitude of a finite double: `mantissa * 2 ^ exponent`. -/
structure Binary where
  negative : Bool
  mantissa : Nat
  exponent : Int
  deriving DecidableEq, Repr

/-- The parts of a double, read off its bits; infinities and not-a-number
have no meaning here. -/
def Binary.ofFloat (x : Float) : Binary :=
  let bits := x.toBits.toNat
  let field : Nat := bits >>> 52 % 0x800
  let fraction : Nat := bits % 0x10000000000000
  { negative := 0x8000000000000000 ≤ bits
    mantissa := if field = 0 then fraction else fraction + 0x10000000000000
    exponent := if field = 0 then -1074 else (field : Int) - 1075 }

end RoutingGateway.Decimal
