/-
The values of query parameters.

Every value is read from its whole text or not at all. A list that goes with
the coordinates has its entries between semicolons, and an empty entry is
left open; so an empty text is one open entry, not an empty list.
-/
import RoutingGateway.Decimal.Binary64
import RoutingGateway.Parameters
import RoutingGateway.Text.Split

namespace RoutingGateway.Query

open RoutingGateway.Decimal RoutingGateway.Text

/-! ## Single values -/

/-- A finite number. -/
def finite? (text : List Char) : Option Float := (readFloat? text).filter Float.isFinite

/-- A whole number of at most `limit`. -/
def wholeUpTo? (limit : Nat) (text : List Char) : Option Nat :=
  match readWhole limit text with
  | .ok n => some n
  | .error _ => none

/-- A longitude and a latitude inside their ranges, with a comma between. -/
def coordinate? (text : List Char) : Option Coordinate :=
  match cut ',' text with
  | none => none
  | some (lon, lat) =>
    match finite? lon, finite? lat with
    | some lon, some lat =>
      let c : Coordinate := { lon, lat }
      if c.isValid then some c else none
    | _, _ => none

/-- The characters of hints. -/
def isHintChar (c : Char) : Bool := c.isAlphanum || c = '_' || c = '-' || c = '='

/-- An opaque text. -/
def hint? (text : List Char) : Option String :=
  if text.all isHintChar then some (String.ofList text) else none

/-- A direction up to 360 and a deviation up to 180 degrees, with a comma
between. -/
def bearing? (text : List Char) : Option Bearing :=
  match cut ',' text with
  | none => none
  | some (direction, deviation) =>
    match wholeUpTo? 360 direction, wholeUpTo? 180 deviation with
    | some direction, some deviation => some { direction, deviation }
    | _, _ => none

/-- A distance that is not negative, or the word for none. -/
def radius? (text : List Char) : Option Radius :=
  if text = "unlimited".toList then some .unlimited
  else
    match finite? text with
    | some meters => if 0.0 ≤ meters then some (.meters meters) else none
    | none => none

/-- A switch. -/
def flag? (text : List Char) : Option Bool :=
  if text = "true".toList then some true
  else if text = "false".toList then some false
  else none

/-- The characters of road classes. -/
def isClassChar (c : Char) : Bool := c.isLower || c = '_'

/-- The name of a road class. -/
def roadClass? (text : List Char) : Option String :=
  if text ≠ [] ∧ text.all isClassChar then some (String.ofList text) else none

/-! ## Lists -/

/-- One entry of a list that goes with the coordinates: nothing, or an item. -/
def slot? {α : Type} (item : List Char → Option α) (text : List Char) : Option (Option α) :=
  if text = [] then some none else (item text).map some

/-- Entries between semicolons. -/
def slots? {α : Type} (item : List Char → Option α) (text : List Char) :
    Option (List (Option α)) :=
  (text.splitOn ';').mapM (slot? item)

/-- Coordinates between semicolons. -/
def coordinates? (text : List Char) : Option (List Coordinate) :=
  (text.splitOn ';').mapM coordinate?

/-- Road classes between commas. -/
def roadClasses? (text : List Char) : Option (List String) :=
  (text.splitOn ',').mapM roadClass?

end RoutingGateway.Query
