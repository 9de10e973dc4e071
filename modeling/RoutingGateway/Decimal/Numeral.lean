/-
Reading decimal numerals.

Whole numbers are an optional plus sign and digits, bounded by a limit;
leading zeros are allowed. Decimal numerals are an optional sign and either
one of the words for infinity and not-a-number, in any case, or digits with
an optional point and an optional exponent. Nothing else may stand before,
after or between.
-/

namespace RoutingGateway.Decimal

/-- The number that a list of decimal digits denotes. -/
def ofDigits (digits : List Char) : Nat :=
  digits.foldl (fun n c => 10 * n + (c.toNat - '0'.toNat)) 0

/-! ## Whole numbers -/

/-- Why a text is not a whole number of the wanted size. -/
inductive WholeError where
  | empty
  | invalidDigit
  | tooLarge
  deriving DecidableEq, Repr

/-- The wording of a `WholeError`. -/
def WholeError.message : WholeError → String
  | .empty => "cannot parse integer from empty string"
  | .invalidDigit => "invalid digit found in string"
  | .tooLarge => "number too large to fit in target type"

/-- Reads digits on top of what was read before them, from the left. The
first character that cannot be taken decides the error: it is no digit, or
with it the number passes the limit. -/
def readDigits (limit : Nat) (value : Nat) : List Char → Except WholeError Nat
  | [] => .ok value
  | c :: rest =>
    if c.isDigit then
      let next := 10 * value + (c.toNat - '0'.toNat)
      if next ≤ limit then readDigits limit next rest else .error .tooLarge
    else .error .invalidDigit

/-- Reads a whole number of at most `limit`. -/
def readWhole (limit : Nat) : List Char → Except WholeError Nat
  | [] => .error .empty
  | ['+'] => .error .invalidDigit
  | '+' :: digits => readDigits limit 0 digits
  | digits => readDigits limit 0 digits

/-! ## Decimal numerals -/

/-- What a numeral denotes, its sign apart. -/
inductive Magnitude where
  /-- The number `coefficient * 10 ^ exponent`. -/
  | finite (coefficient : Nat) (exponent : Int)
  | infinite
  | undefined
  deriving DecidableEq, Repr

/-- A decimal numeral that has been read. -/
structure Numeral where
  negative : Bool
  magnitude : Magnitude
  deriving DecidableEq, Repr

/-- Takes a sign off the front; without one the number is not negative. -/
def unsign : List Char → Bool × List Char
  | '+' :: rest => (false, rest)
  | '-' :: rest => (true, rest)
  | text => (false, text)

/-- Reads the exponent part: nothing at all, or the letter, an optional sign
and at least one digit. -/
def readExponent? : List Char → Option Int
  | [] => some 0
  | c :: rest =>
    if c = 'e' ∨ c = 'E' then
      let (negative, digits) := unsign rest
      if digits ≠ [] ∧ digits.all Char.isDigit then
        some (if negative then -(ofDigits digits : Int) else ofDigits digits)
      else none
    else none

/-- The digits after a leading point, and what follows them. -/
def splitFraction : List Char → List Char × List Char
  | '.' :: rest => (rest.takeWhile Char.isDigit, rest.dropWhile Char.isDigit)
  | rest => ([], rest)

/-- Reads digits with an optional point among them and an optional exponent. -/
def readFinite? (text : List Char) : Option Magnitude :=
  let whole := text.takeWhile Char.isDigit
  let (fraction, rest) := splitFraction (text.dropWhile Char.isDigit)
  if whole = [] ∧ fraction = [] then none
  else (readExponent? rest).map fun exponent =>
    .finite (ofDigits (whole ++ fraction)) (exponent - fraction.length)

/-- Reads one of the words for what is not a finite number. -/
def readWord? (text : List Char) : Option Magnitude :=
  match String.ofList (text.map Char.toLower) with
  | "inf" => some .infinite
  | "infinity" => some .infinite
  | "nan" => some .undefined
  | _ => none

/-- Reads a decimal numeral. -/
def Numeral.read? (text : List Char) : Option Numeral :=
  let (negative, rest) := unsign text
  ((readFinite? rest).or (readWord? rest)).map fun magnitude => { negative, magnitude }

end RoutingGateway.Decimal
