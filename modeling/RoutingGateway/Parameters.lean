/-
The parameters of one route request.

The number of coordinates sets the size of the request. Each of the four
lists that go with the coordinates (`PerCoordinate`) is either empty, which
leaves it unspecified for every coordinate, or has one entry per
coordinate, and an entry may be left open itself. Reading a request does
not compare the lists; `Parameters.isValid` says whether they agree.
-/
import RoutingGateway.Coordinate

namespace RoutingGateway

/-! ## The kinds of values -/

/-- The heading a vehicle may have at a coordinate, in whole degrees: a
direction and the deviation allowed to either side. -/
structure Bearing where
  direction : Nat
  deviation : Nat
  deriving DecidableEq, Repr

/-- The side of the road from which a coordinate is approached. -/
inductive Approach where
  | curb
  | unrestricted
  deriving DecidableEq, Repr

/-- How far from a coordinate the road may lie. -/
inductive Radius where
  | meters (value : Float)
  | unlimited
  deriving Repr

/-- The encoding of the answer. -/
inductive OutputFormat where
  | json
  | flatbuffers
  deriving DecidableEq, Repr, Inhabited

/-- How much of the route's shape is returned. -/
inductive Overview where
  | simplified
  | full
  | off
  deriving DecidableEq, Repr

/-- The encoding of route shapes. -/
inductive Geometries where
  | polyline
  | polyline6
  | geojson
  deriving DecidableEq, Repr

/-! ## Keywords -/

/-- The keyword of an approach. -/
def Approach.keyword : Approach → String
  | .curb => "curb"
  | .unrestricted => "unrestricted"

/-- The approach a keyword names. -/
def Approach.ofKeyword? : String → Option Approach
  | "curb" => some .curb
  | "unrestricted" => some .unrestricted
  | _ => none

/-- The keyword of an output format. -/
def OutputFormat.keyword : OutputFormat → String
  | .json => "json"
  | .flatbuffers => "flatbuffers"

/-- The output format a keyword names. -/
def OutputFormat.ofKeyword? : String → Option OutputFormat
  | "json" => some .json
  | "flatbuffers" => some .flatbuffers
  | _ => none

/-- The keyword of an overview. -/
def Overview.keyword : Overview → String
  | .simplified => "simplified"
  | .full => "full"
  | .off => "false"

/-- The overview a keyword names. -/
def Overview.ofKeyword? : String → Option Overview
  | "simplified" => some .simplified
  | "full" => some .full
  | "false" => some .off
  | _ => none

/-- The keyword of a shape encoding. -/
def Geometries.keyword : Geometries → String
  | .polyline => "polyline"
  | .polyline6 => "polyline6"
  | .geojson => "geojson"

/-- The shape encoding a keyword names. -/
def Geometries.ofKeyword? : String → Option Geometries
  | "polyline" => some .polyline
  | "polyline6" => some .polyline6
  | "geojson" => some .geojson
  | _ => none

/-! ## Parameters -/

/-- The decoded parameters of a route request. -/
structure Parameters where
  /-- The points to visit, in order. -/
  coordinates : List Coordinate := []
  /-- Opaque texts from earlier answers. -/
  hints : List (Option String) := []
  bearings : List (Option Bearing) := []
  radiuses : List (Option Radius) := []
  approaches : List (Option Approach) := []
  /-- The wanted encoding, if the request names one. -/
  format : Option OutputFormat := none
  steps : Bool := false
  alternatives : Bool := false
  overview : Overview := .simplified
  geometries : Geometries := .polyline
  /-- The road classes to avoid. -/
  exclude : List String := []
  /-- Whether hints are repeated in the answer. -/
  generateHints : Bool := true
  deriving Inhabited, Repr

/-- The lists that go with the coordinates. -/
inductive PerCoordinate where
  | hints
  | bearings
  | radiuses
  | approaches
  deriving DecidableEq, Repr

/-- The name of a list as requests and messages spell it. -/
def PerCoordinate.name : PerCoordinate → String
  | .hints => "hints"
  | .bearings => "bearings"
  | .radiuses => "radiuses"
  | .approaches => "approaches"

/-- The lists in the order in which they are checked. -/
def PerCoordinate.all : List PerCoordinate := [.hints, .bearings, .radiuses, .approaches]

namespace Parameters

/-- The encoding of the answer: JSON unless the request names another. -/
def outputFormat (p : Parameters) : OutputFormat := p.format.getD .json

/-- The number of entries of a list. -/
def count (p : Parameters) : PerCoordinate → Nat
  | .hints => p.hints.length
  | .bearings => p.bearings.length
  | .radiuses => p.radiuses.length
  | .approaches => p.approaches.length

/-- Whether an engine may be asked: there are two coordinates or more, and
every list is empty or has one entry for each. -/
def isValid (p : Parameters) : Bool :=
  2 ≤ p.coordinates.length &&
    PerCoordinate.all.all fun list => p.count list == 0 || p.count list == p.coordinates.length

end Parameters

end RoutingGateway
