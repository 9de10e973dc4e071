/-
Writing the digits of a double.

The digits come from `shortest` or `rounded`; a `Layout` says how they are
written: which sizes stand with the point in place, what a whole number
carries, and how an exponent looks.
-/
import RoutingGateway.Decimal.Shortest

namespace RoutingGateway.Decimal

/-- How the digits of a finite number are written. The exponents are those of
the leading digit. -/
structure Layout where
  /-- The exponents written with the point in place; the others are written
  with an exponent. -/
  positional : Int → Bool
  /-- What follows the digits of a whole number written in place. -/
  wholeEnd : String
  /-- What stands in front of an exponent that is not negative. -/
  exponentPlus : String

/-- Digits with a point after the first `count`, or zeros up to it. -/
def pointAfter (layout : Layout) (digits : List Char) (count : Int) : List Char :=
  if count ≤ 0 then
    '0' :: '.' :: (List.replicate (-count).toNat '0' ++ digits)
  else if (digits.length : Int) ≤ count then
    digits ++ List.replicate (count - digits.length).toNat '0' ++ layout.wholeEnd.toList
  else
    digits.take count.toNat ++ '.' :: digits.drop count.toNat

/-- Digits with a point after the first, unless it is the only one, and an
exponent. -/
def withExponent (layout : Layout) (digits : List Char) (exponent : Int) : List Char :=
  let mantissa := match digits with
    | first :: second :: rest => first :: '.' :: second :: rest
    | short => short
  let plus := if 0 ≤ exponent then layout.exponentPlus.toList else []
  mantissa ++ 'e' :: (plus ++ (toString exponent).toList)

/-- Writes decimal digits as the layout says; zero has the exponent zero. -/
def Digits.write (layout : Layout) (d : Digits) : List Char :=
  let digits := Nat.toDigits 10 d.coefficient
  let exponent := d.exponent + digits.length - 1
  if layout.positional exponent then pointAfter layout digits (exponent + 1)
  else withExponent layout digits exponent

/-- The sign of a number in front of its digits; zero has one too. -/
def signed (b : Binary) (digits : List Char) : List Char :=
  if b.negative then '-' :: digits else digits

/-- A finite double in the fewest digits that read back. -/
def writeShortest (layout : Layout) (x : Float) : List Char :=
  let b := Binary.ofFloat x
  signed b ((shortest b).write layout)

/-- The plain form: the point always in place, whole numbers bare, and words
for what is not finite. -/
def plain (x : Float) : String :=
  if x.isNaN then "NaN"
  else if x.isInf then if x < 0 then "-inf" else "inf"
  else String.ofList (writeShortest
    { positional := fun _ => true, wholeEnd := "", exponentPlus := "" } x)

/-- The scientific form with `count` significant digits, half to even. Zero is
written with as many zeros. -/
def scientific (count : Nat) (x : Float) : String :=
  if x.isNaN then "NaN"
  else if x.isInf then if x < 0 then "-inf" else "inf"
  else
    let b := Binary.ofFloat x
    let d := rounded count b
    let digits := Nat.toDigits 10 d.coefficient
    let padded := digits ++ List.replicate (count - digits.length) '0'
    let exponent := if b.mantissa = 0 then 0 else d.exponent + digits.length - 1
    String.ofList (signed b (withExponent
      { positional := fun _ => false, wholeEnd := "", exponentPlus := "" } padded exponent))

end RoutingGateway.Decimal
