/-
Decimal digits of a double: the fewest that read back, or a given number.

The reals that round to a double form an interval around it, with its ends
included when the mantissa is even. The shortest decimal is found on the
coarsest grid of powers of ten that has a point in the interval; of two such
points the one nearer to the value is taken, and the even one on a tie. All
comparisons are between natural numbers.
-/
import RoutingGateway.Decimal.Binary64

namespace RoutingGateway.Decimal

/-- The number `coefficient * 10 ^ exponent`. -/
structure Digits where
  coefficient : Nat
  exponent : Int
  deriving DecidableEq, Repr

/-- A number compared on a decimal grid: `x` units of `2 ^ power` are
`x * units` and the grid's step `10 ^ place` is `step`, both in one common
unit. -/
structure Grid where
  step : Nat
  units : Nat

/-- The grid of multiples of `10 ^ place` beside multiples of `2 ^ power`. -/
def Grid.at (place power : Int) : Grid where
  step := Nat.pow 10 place.toNat <<< (-power).toNat
  units := Nat.pow 10 (-place).toNat <<< power.toNat

/-- A decimal place that lies above the leading digit of a positive number
`mantissa * 2 ^ exponent`, by one or two places. -/
def topPlace (b : Binary) : Int :=
  (b.mantissa.log2 + b.exponent + 1) * 30103 / 100000 + 1

/-! ## The fewest digits that read back -/

/-- The point of the grid of multiples of `10 ^ place` that stands for the
number, if one reads back. The number and the ends of its rounding interval
are counted in quarters of a mantissa unit; below a power of two the
interval is half as wide. -/
def gridPoint? (b : Binary) (place : Int) : Option Digits :=
  let grid := Grid.at place (b.exponent - 2)
  let value := 4 * b.mantissa
  let narrow := b.mantissa = 0x10000000000000 ∧ -1074 < b.exponent
  let low := (if narrow then value - 1 else value - 2) * grid.units
  let high := (value + 2) * grid.units
  let inside (c : Nat) : Bool :=
    let point := c * grid.step
    if b.mantissa % 2 = 0 then low ≤ point && point ≤ high
    else low < point && point < high
  let below := value * grid.units / grid.step
  let remainder := value * grid.units % grid.step
  match inside below, inside (below + 1) with
  | true, true =>
    if 2 * remainder < grid.step then some ⟨below, place⟩
    else if grid.step < 2 * remainder then some ⟨below + 1, place⟩
    else if below % 2 = 0 then some ⟨below, place⟩
    else some ⟨below + 1, place⟩
  | true, false => some ⟨below, place⟩
  | false, true => some ⟨below + 1, place⟩
  | false, false => none

/-- The shortest decimal that reads back as the number, the nearest of those.
Seventeen digits always suffice, so the search ends within the places
tried. -/
def shortest (b : Binary) : Digits :=
  if b.mantissa = 0 then ⟨0, 0⟩
  else
    let top := topPlace b
    ((List.range 20).findSome? fun (n : Nat) => gridPoint? b (top - n)).getD ⟨0, 0⟩

/-! ## A given number of digits -/

/-- The number rounded to `count` significant digits, half to even. -/
def rounded (count : Nat) (b : Binary) : Digits :=
  if b.mantissa = 0 then ⟨0, 0⟩
  else
    let top := topPlace b
    let place := ((List.range (count + 3)).findSome? fun (n : Nat) =>
      let grid := Grid.at (top - n) b.exponent
      if Nat.pow 10 (count - 1) ≤ b.mantissa * grid.units / grid.step then some (top - (n : Int))
      else none).getD top
    let grid := Grid.at place b.exponent
    let coefficient := nearestEven (b.mantissa * grid.units) grid.step
    if coefficient = Nat.pow 10 count then ⟨Nat.pow 10 (count - 1), place + 1⟩
    else ⟨coefficient, place⟩

end RoutingGateway.Decimal
