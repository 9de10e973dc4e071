/-
Socket addresses: an IP address and a port.

The text of an address of the first kind is four decimal octets, that of the
second kind eight hexadecimal groups in brackets, where two colons stand for
a run of zero groups, the last two groups may be spelt as octets, and a
percent sign leads in the number of a zone. Numbers are read whole, so an
address takes its entire text or none of it.
-/
import RoutingGateway.Text.Hex

namespace RoutingGateway.Network

open RoutingGateway.Text

/-! ## Addresses -/

/-- An address of four octets. -/
structure Ipv4 where
  octets : Vector UInt8 4
  deriving DecidableEq, Repr

/-- An address of eight groups. -/
structure Ipv6 where
  groups : Vector UInt16 8
  deriving DecidableEq, Repr

/-- Where a listener stands. -/
inductive SocketAddress where
  | v4 (ip : Ipv4) (port : UInt16)
  | v6 (ip : Ipv6) (zone : UInt32) (port : UInt16)
  deriving DecidableEq, Repr

/-! ## Reading

A reader takes what it can off the front of the text and returns the rest. -/

/-- How a number is written. -/
structure NumberForm where
  radix : Nat
  /-- The most digits allowed. -/
  places : Option Nat
  /-- Whether further digits may follow a leading zero. -/
  zeroLed : Bool
  largest : Nat

/-- The value of a digit in this form. -/
def NumberForm.digit? (form : NumberForm) (c : Char) : Option Nat :=
  (hexValue? c).filter fun value => value < form.radix

/-- Reads all digits in front. -/
def NumberForm.read? (form : NumberForm) (text : List Char) : Option (Nat × List Char) :=
  let digits := text.takeWhile fun c => (form.digit? c).isSome
  let value := (digits.filterMap form.digit?).foldl (fun n d => form.radix * n + d) 0
  if digits = [] ∨ (form.places.any fun places => places < digits.length) ∨
      (!form.zeroLed ∧ digits.head? = some '0' ∧ digits ≠ ['0']) ∨ form.largest < value then none
  else some (value, text.drop digits.length)

/-- An octet: up to three decimal digits without leading zeros. -/
def octet : NumberForm := { radix := 10, places := some 3, zeroLed := false, largest := 255 }

/-- A group: up to four hexadecimal digits. -/
def group : NumberForm := { radix := 16, places := some 4, zeroLed := true, largest := 65535 }

/-- A port: any number of decimal digits. -/
def port : NumberForm := { radix := 10, places := none, zeroLed := true, largest := 65535 }

/-- The number of a zone. -/
def zone : NumberForm := { radix := 10, places := none, zeroLed := true, largest := UInt32.size - 1 }

/-- Takes one character off the front. -/
def expect? (c : Char) : List Char → Option (List Char)
  | d :: rest => if c = d then some rest else none
  | [] => none

/-- Reads four octets with points between them. -/
def Ipv4.read? (text : List Char) : Option (Ipv4 × List Char) := do
  let (a, text) ← octet.read? text
  let (b, text) ← octet.read? (← expect? '.' text)
  let (c, text) ← octet.read? (← expect? '.' text)
  let (d, text) ← octet.read? (← expect? '.' text)
  return ({ octets := #v[a.toUInt8, b.toUInt8, c.toUInt8, d.toUInt8] }, text)

/-- The two groups that hold four octets. -/
def Ipv4.asGroups (ip : Ipv4) : List UInt16 :=
  let pair (high low : UInt8) : UInt16 := 256 * high.toUInt16 + low.toUInt16
  [pair ip.octets[0] ip.octets[1], pair ip.octets[2] ip.octets[3]]

/-- A series of groups that has been read. -/
structure Groups where
  groups : List UInt16
  /-- Whether its last two groups were spelt as octets. -/
  endsInOctets : Bool

/-- Reads up to `room` groups with colons between them; `first` when none stands
in front of the series. Octets take the room of two groups and end it. What
cannot be read as a group is left. -/
def readGroups (first : Bool) (text : List Char) : Nat → Groups × List Char
  | 0 => ({ groups := [], endsInOctets := false }, text)
  | room + 1 =>
    match if first then some text else expect? ':' text with
    | none => ({ groups := [], endsInOctets := false }, text)
    | some inner =>
      match if room = 0 then none else Ipv4.read? inner with
      | some (ip, rest) => ({ groups := ip.asGroups, endsInOctets := true }, rest)
      | none =>
        match group.read? inner with
        | none => ({ groups := [], endsInOctets := false }, text)
        | some (value, rest) =>
          let (more, rest) := readGroups false rest room
          ({ more with groups := value.toUInt16 :: more.groups }, rest)

/-- Reads eight groups, or fewer around two colons that stand for at least one. -/
def Ipv6.read? (text : List Char) : Option (Ipv6 × List Char) := do
  let (front, text) := readGroups true text 8
  if h : front.groups.length = 8 then
    return ({ groups := ⟨front.groups.toArray, by simpa using h⟩ }, text)
  else if front.endsInOctets then none
  else
    let text ← expect? ':' (← expect? ':' text)
    let (back, text) := readGroups true text (7 - front.groups.length)
    let zeros := List.replicate (8 - front.groups.length - back.groups.length) 0
    let groups := front.groups ++ zeros ++ back.groups
    if h : groups.length = 8 then return ({ groups := ⟨groups.toArray, by simpa using h⟩ }, text)
    else none

/-- Reads a colon and a port, and the end of the text. -/
def readPort? (text : List Char) : Option UInt16 := do
  match ← port.read? (← expect? ':' text) with
  | (value, []) => return value.toUInt16
  | _ => none

/-- Takes the number of a zone off the front, if there is one. -/
def readZone (text : List Char) : UInt32 × List Char :=
  match (expect? '%' text).bind zone.read? with
  | some (value, rest) => (value.toUInt32, rest)
  | none => (0, text)

/-- Reads a socket address. -/
def SocketAddress.read? (text : List Char) : Option SocketAddress :=
  match Ipv4.read? text with
  | some (ip, rest) => (readPort? rest).map (.v4 ip ·)
  | none => do
    let (ip, rest) ← Ipv6.read? (← expect? '[' text)
    let (zone, rest) := readZone rest
    return .v6 ip zone (← readPort? (← expect? ']' rest))

/-! ## Writing -/

/-- Octets with points between them. -/
def Ipv4.text (ip : Ipv4) : String :=
  ".".intercalate (ip.octets.toList.map fun o => toString o.toNat)

/-- Groups with colons between them. -/
def groupsText (groups : List UInt16) : String :=
  ":".intercalate (groups.map fun g => String.ofList (hexDigits g.toNat))

/-- The start and the length of the first longest run of zeros. The run that is
being read began at `start` and has the length `length`. -/
def longestZeros (index start length : Nat) (best : Nat × Nat) :
    List UInt16 → Nat × Nat
  | [] => best
  | g :: rest =>
    if g = 0 then
      let start := if length = 0 then index else start
      let best := if best.2 < length + 1 then (start, length + 1) else best
      longestZeros (index + 1) start (length + 1) best rest
    else longestZeros (index + 1) 0 0 best rest

/-- The octets of an address whose first five groups are zero and whose sixth is
full. -/
def Ipv6.mapped? (ip : Ipv6) : Option Ipv4 :=
  if ip.groups.toList.take 6 = [0, 0, 0, 0, 0, 65535] then
    let high (g : UInt16) : UInt8 := (g / 256).toUInt8
    some
      { octets := #v[high ip.groups[6], ip.groups[6].toUInt8,
          high ip.groups[7], ip.groups[7].toUInt8] }
  else none

/-- Groups with colons between them, a longest run of two zero groups or more
left out; octets at the end of a mapped address. -/
def Ipv6.text (ip : Ipv6) : String :=
  match ip.mapped? with
  | some octets => "::ffff:" ++ octets.text
  | none =>
    let groups := ip.groups.toList
    let (start, length) := longestZeros 0 0 0 (0, 0) groups
    if 1 < length then
      groupsText (groups.take start) ++ "::" ++ groupsText (groups.drop (start + length))
    else groupsText groups

/-- The text of a socket address. -/
def SocketAddress.text : SocketAddress → String
  | .v4 ip port => ip.text ++ ":" ++ toString port.toNat
  | .v6 ip zone port =>
    "[" ++ ip.text ++ (if zone = 0 then "" else "%" ++ toString zone.toNat) ++ "]:" ++
      toString port.toNat

/-- The text of the IP address alone. -/
def SocketAddress.host : SocketAddress → String
  | .v4 ip _ => ip.text
  | .v6 ip _ _ => ip.text

end RoutingGateway.Network
