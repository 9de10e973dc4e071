/-
Hexadecimal numerals in lower case.
-/

namespace RoutingGateway.Text

/-- The hexadecimal digits of `n`, most significant first, without leading zeros. -/
def hexDigits (n : Nat) : List Char := Nat.toDigits 16 n

/-- The hexadecimal digits of `n` with zeros in front up to `places` digits. -/
def hexPadded (places n : Nat) : List Char :=
  List.replicate (places - (hexDigits n).length) '0' ++ hexDigits n

/-- The value of a hexadecimal digit of either case. -/
def hexValue? (c : Char) : Option Nat :=
  if '0' ≤ c ∧ c ≤ '9' then some (c.toNat - '0'.toNat)
  else if 'a' ≤ c ∧ c ≤ 'f' then some (c.toNat - 'a'.toNat + 10)
  else if 'A' ≤ c ∧ c ≤ 'F' then some (c.toNat - 'A'.toNat + 10)
  else none

end RoutingGateway.Text
