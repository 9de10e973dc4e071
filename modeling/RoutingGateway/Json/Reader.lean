/-
Reading JSON text.

`Json.read?` reads one value with nothing but blanks around it. A number
without point and exponent that fits 64 bits, signed or unsigned, is an
integer; any other number is a floating-point number. Field order is kept
as written.

Each step returns what it read and the text that is left; arrays and objects
nest no deeper than the text is long, which bounds the recursion.
-/
import RoutingGateway.Decimal.Binary64
import RoutingGateway.Json.Value
import RoutingGateway.Text.Hex

namespace RoutingGateway.Json

open RoutingGateway.Decimal RoutingGateway.Text

/-- The blanks that may stand between the parts of a value. -/
def isBlank (c : Char) : Bool := c = ' ' || c = '\n' || c = '\r' || c = '\t'

/-- The text from its first character that is no blank. -/
def skipBlanks (text : List Char) : List Char := text.dropWhile isBlank

/-! ## Strings -/

/-- The sixteen-bit unit that four hexadecimal digits name. -/
def readUnit? (a b c d : Char) : Option Nat :=
  match hexValue? a, hexValue? b, hexValue? c, hexValue? d with
  | some w, some x, some y, some z => some (((w * 16 + x) * 16 + y) * 16 + z)
  | _, _, _, _ => none

/-- The character that two units name together, a high and a low surrogate. -/
def pairChar? (high low : Nat) : Option Char :=
  if 0xD800 ≤ high ∧ high < 0xDC00 ∧ 0xDC00 ≤ low ∧ low < 0xE000 then
    some (Char.ofNat (0x10000 + (high - 0xD800) * 0x400 + (low - 0xDC00)))
  else none

/-- The character that one unit names by itself. -/
def unitChar? (unit : Nat) : Option Char :=
  if 0xD800 ≤ unit ∧ unit < 0xE000 then none else some (Char.ofNat unit)

/-- The character that the letter after a backslash names. -/
def escaped? : Char → Option Char
  | '"' => some '"'
  | '\\' => some '\\'
  | '/' => some '/'
  | 'b' => some '\x08'
  | 'f' => some '\x0c'
  | 'n' => some '\n'
  | 'r' => some '\r'
  | 't' => some '\t'
  | _ => none

/-- Reads the inside of a string and its closing quote. -/
def readChars : List Char → Option (List Char × List Char)
  | [] => none
  | '"' :: rest => some ([], rest)
  | '\\' :: 'u' :: a :: b :: c :: d :: rest =>
    match readUnit? a b c d with
    | none => none
    | some unit =>
      match unitChar? unit, rest with
      | some char, rest =>
        match readChars rest with
        | some (more, left) => some (char :: more, left)
        | none => none
      | none, '\\' :: 'u' :: e :: f :: g :: h :: rest =>
        match (readUnit? e f g h).bind (pairChar? unit), readChars rest with
        | some char, some (more, left) => some (char :: more, left)
        | _, _ => none
      | none, _ => none
  | '\\' :: letter :: rest =>
    match escaped? letter, readChars rest with
    | some char, some (more, left) => some (char :: more, left)
    | _, _ => none
  | c :: rest =>
    if c.toNat < 32 ∨ c = '\\' then none
    else match readChars rest with
      | some (more, left) => some (c :: more, left)
      | none => none

/-! ## Numbers -/

/-- The characters of which numbers consist. -/
def isNumberChar (c : Char) : Bool :=
  c.isDigit || c = '-' || c = '+' || c = '.' || c = 'e' || c = 'E'

/-- Whether digits stand for a whole number without a needless zero in front. -/
def isWholeText (digits : List Char) : Bool :=
  match digits with
  | [] => false
  | ['0'] => true
  | '0' :: _ => false
  | _ => digits.all Char.isDigit

/-- Reads the whole text of a number. -/
def readNumber? (text : List Char) : Option Json :=
  let (negative, digits) := match text with
    | '-' :: rest => (true, rest)
    | rest => (false, rest)
  let whole := digits.takeWhile Char.isDigit
  let rest := digits.dropWhile Char.isDigit
  if !isWholeText whole then none
  else if rest = [] then
    let value : Int := if negative then -(ofDigits whole : Int) else ofDigits whole
    if -0x8000000000000000 ≤ value ∧ value < UInt64.size then some (int value)
    else (readFloat? text).map float
  else
    match rest with
    | '.' :: c :: _ => if c.isDigit then (readFloat? text).map float else none
    | '.' :: [] => none
    | _ => (readFloat? text).map float

/-! ## Values -/

/-- What follows `word` in the text, with the value that the word stands for. -/
def readWord? (word : String) (value : Json) (text : List Char) : Option (Json × List Char) :=
  if text.take word.length = word.toList then some (value, text.drop word.length) else none

mutual

/-- Reads one value, which nests at most `depth` deep, and returns the text after
it. -/
def readValue (depth : Nat) (text : List Char) : Option (Json × List Char) :=
  match depth with
  | 0 => none
  | depth + 1 =>
    match text with
    | '"' :: rest => (readChars rest).map fun (chars, left) => (string (String.ofList chars), left)
    | '[' :: rest =>
      match skipBlanks rest with
      | ']' :: left => some (array [], left)
      | rest => (readItems depth rest).map fun (items, left) => (array items, left)
    | '{' :: rest =>
      match skipBlanks rest with
      | '}' :: left => some (object [], left)
      | rest => (readFields depth rest).map fun (fields, left) => (object fields, left)
    | 'n' :: _ => readWord? "null" null text
    | 't' :: _ => readWord? "true" (bool true) text
    | 'f' :: _ => readWord? "false" (bool false) text
    | text =>
      (readNumber? (text.takeWhile isNumberChar)).map fun value =>
        (value, text.dropWhile isNumberChar)

/-- Reads values up to the bracket that closes them. -/
def readItems (depth : Nat) (text : List Char) : Option (List Json × List Char) :=
  match depth with
  | 0 => none
  | depth + 1 =>
    match readValue depth text with
    | none => none
    | some (item, rest) =>
      match skipBlanks rest with
      | ',' :: rest =>
        (readItems depth (skipBlanks rest)).map fun (items, left) => (item :: items, left)
      | ']' :: left => some ([item], left)
      | _ => none

/-- Reads fields up to the brace that closes them. -/
def readFields (depth : Nat) (text : List Char) : Option (List (String × Json) × List Char) :=
  match depth with
  | 0 => none
  | depth + 1 =>
    match text with
    | '"' :: rest =>
      match readChars rest with
      | none => none
      | some (name, rest) =>
        match skipBlanks rest with
        | ':' :: rest =>
          match readValue depth (skipBlanks rest) with
          | none => none
          | some (value, rest) =>
            match skipBlanks rest with
            | ',' :: rest =>
              (readFields depth (skipBlanks rest)).map fun (fields, left) =>
                ((String.ofList name, value) :: fields, left)
            | '}' :: left => some ([(String.ofList name, value)], left)
            | _ => none
        | _ => none
    | _ => none

end

/-- Reads one value with blanks around it. -/
def readText? (text : List Char) : Option Json :=
  match readValue (text.length + 1) (skipBlanks text) with
  | some (value, rest) => if skipBlanks rest = [] then some value else none
  | none => none

/-- Reads one value with blanks around it. -/
def read? (text : String) : Option Json := readText? text.toList

end RoutingGateway.Json
