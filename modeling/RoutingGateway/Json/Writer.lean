/-
The compact JSON text of a value.

No blanks are written. Strings escape the quote, the backslash and the
control characters below the space, which have a short name or four
hexadecimal digits; everything else stands as it is. A floating-point
number is written in the fewest digits that read back.
-/
import RoutingGateway.Decimal.Layout
import RoutingGateway.Json.Value
import RoutingGateway.Text.Hex

namespace RoutingGateway.Json

open RoutingGateway.Decimal RoutingGateway.Text

/-! ## Numbers -/

/-- Floating-point numbers from 0.00001 up to below 10^16 have the point in
place and at least one digit behind it; the others have an exponent, with
a plus sign when it is not negative. -/
def numberLayout : Layout where
  positional exponent := -5 ≤ exponent && exponent ≤ 15
  wholeEnd := ".0"
  exponentPlus := "+"

/-- The text of a floating-point number; what is not finite is null. -/
def writeFloat (x : Float) : List Char :=
  if x.isFinite then writeShortest numberLayout x else "null".toList

/-- The text of an integer. -/
def writeInt (n : Int) : List Char :=
  if n < 0 then '-' :: Nat.toDigits 10 n.natAbs else Nat.toDigits 10 n.natAbs

/-! ## Strings -/

/-- One character inside a string. -/
def writeChar (c : Char) : List Char :=
  if c = '"' then ['\\', '"']
  else if c = '\\' then ['\\', '\\']
  else if c = '\x08' then ['\\', 'b']
  else if c = '\x0c' then ['\\', 'f']
  else if c = '\n' then ['\\', 'n']
  else if c = '\r' then ['\\', 'r']
  else if c = '\t' then ['\\', 't']
  else if c.toNat < 32 then '\\' :: 'u' :: hexPadded 4 c.toNat
  else [c]

/-- A string in quotes. -/
def writeString (text : String) : List Char :=
  '"' :: (text.toList.flatMap writeChar ++ ['"'])

/-! ## Values -/

mutual

/-- The compact text of a value. -/
def write : Json → List Char
  | null => "null".toList
  | bool true => "true".toList
  | bool false => "false".toList
  | int n => writeInt n
  | float x => writeFloat x
  | string text => writeString text
  | array items => '[' :: (writeItems items ++ [']'])
  | object fields => '{' :: (writeFields fields ++ ['}'])

/-- Values with a comma between them. -/
def writeItems : List Json → List Char
  | [] => []
  | [item] => write item
  | item :: next :: rest => write item ++ ',' :: writeItems (next :: rest)

/-- Fields with a comma between them. -/
def writeFields : List (String × Json) → List Char
  | [] => []
  | [(name, value)] => writeString name ++ ':' :: write value
  | (name, value) :: next :: rest =>
    writeString name ++ ':' :: (write value ++ ',' :: writeFields (next :: rest))

end

/-- The compact text of a value. -/
def render (value : Json) : String := String.ofList value.write

end RoutingGateway.Json
