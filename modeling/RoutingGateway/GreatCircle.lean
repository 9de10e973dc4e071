/-
The great-circle engine.

It joins the coordinates with great-circle legs at a constant speed and needs
no map. The same legs go out in two encodings: as a document with one route,
its legs and its waypoints, or as a buffer that holds the number of legs and
each leg's distance and duration in little-endian words.
-/
import RoutingGateway.Engine
import RoutingGateway.LittleEndian

namespace RoutingGateway

/-- A great-circle engine: its speed in metres per second, and the road
classes a request may exclude. -/
structure GreatCircle where
  speed : Float := 13.9
  classes : List String := ["motorway", "toll", "ferry"]
  deriving Inhabited, Repr

/-- The way between two neighbouring coordinates. -/
structure Leg where
  distance : Float
  duration : Float
  deriving Inhabited, Repr

namespace GreatCircle

/-! ## Legs -/

/-- The pairs of neighbours in a list, in order. -/
def neighbours {α : Type} : List α → List (α × α)
  | a :: b :: rest => (a, b) :: neighbours (b :: rest)
  | _ => []

/-- The leg from one coordinate to another. -/
def leg (engine : GreatCircle) (ends : Coordinate × Coordinate) : Leg :=
  let distance := ends.1.distance ends.2
  { distance, duration := distance / engine.speed }

/-- The legs of a route, one for each pair of neighbours. -/
def legs (engine : GreatCircle) (coordinates : List Coordinate) : List Leg :=
  (neighbours coordinates).map engine.leg

/-- The sum from left to right. It starts from negative zero, which is neutral
for every number, negative zero included. -/
def total (values : List Float) : Float := values.foldl (· + ·) (-0.0)

/-! ## Excluded classes -/

/-- Why a request that excludes road classes is refused, as a code and a
message: it names a class the engine does not know, or it excludes all of
them. -/
def refusal? (engine : GreatCircle) (exclude : List String) : Option (String × String) :=
  if exclude.any fun c => !engine.classes.contains c then
    some ("InvalidValue", "Exclude flag combination is not supported.")
  else if !engine.classes.isEmpty && engine.classes.all exclude.contains then
    some ("NoRoute", "Impossible route between points")
  else none

/-! ## The document -/

/-- A coordinate as a JSON array. -/
def location (c : Coordinate) : Json := .array [.number c.lon, .number c.lat]

/-- One step of a leg: what is done, where, and how far it goes. -/
def step (kind : String) (place : Coordinate) (distance duration : Float) : Json :=
  .object
    [("distance", .number distance),
      ("duration", .number duration),
      ("maneuver", .object [("type", .string kind), ("location", location place)])]

/-- The steps of a leg: depart at its start, arrive at its end. -/
def steps (leg : Leg) (ends : Coordinate × Coordinate) : List Json :=
  [step "depart" ends.1 leg.distance leg.duration, step "arrive" ends.2 0.0 0.0]

/-- One leg of the document; `withSteps` says whether its steps are listed. -/
def legJson (withSteps : Bool) (leg : Leg) (ends : Coordinate × Coordinate) : Json :=
  .object
    [("distance", .number leg.distance),
      ("duration", .number leg.duration),
      ("weight", .number leg.duration),
      ("summary", .string ""),
      ("steps", .array (if withSteps then steps leg ends else []))]

/-- One waypoint of the document, with its hint if there is one. -/
def waypoint (hint : Option String) (c : Coordinate) : Json :=
  .object
    ([("location", location c), ("name", .string ""), ("distance", .number 0.0)] ++
      match hint with
      | some text => [("hint", .string text)]
      | none => [])

/-- The hint that goes out with coordinate `i`. -/
def hintAt (p : Parameters) (i : Nat) : Option String :=
  if p.generateHints then (p.hints[i]?).join else none

/-- The waypoints of the document, one for each coordinate. -/
def waypoints (p : Parameters) : List Json :=
  p.coordinates.mapIdx fun i c => waypoint (hintAt p i) c

/-- The only route of the document. -/
def routeJson (p : Parameters) (legs : List Leg) : Json :=
  let duration := Json.number (total (legs.map Leg.duration))
  .object
    [("distance", .number (total (legs.map Leg.distance))),
      ("duration", duration),
      ("weight", duration),
      ("weight_name", .string "duration"),
      ("legs", .array (List.zipWith (legJson p.steps) legs (neighbours p.coordinates)))]

/-- Writes the route into a document. -/
def writeDocument (p : Parameters) (legs : List Leg) (doc : Document) : Document :=
  ((doc.insert "code" (.string "Ok")).insert "routes" (.array [routeJson p legs])).insert
    "waypoints" (.array (waypoints p))

/-! ## The buffer -/

/-- The bytes of one leg. -/
def legBytes (leg : Leg) : List UInt8 :=
  LittleEndian.ofFloat leg.distance ++ LittleEndian.ofFloat leg.duration

/-- The bytes of a route: the number of legs in four bytes, which stop at their
greatest value, and the legs. -/
def routeBytes (legs : List Leg) : List UInt8 :=
  LittleEndian.encode 4 (min legs.length (UInt32.size - 1)) ++ legs.flatMap legBytes

/-! ## Routing -/

/-- Computes a route. A refusal goes out as a document whatever the container
was, because a buffer has no room for it. -/
def route (engine : GreatCircle) (p : Parameters) (container : Container) :
    Status × Container :=
  match engine.refusal? p.exclude with
  | some (code, message) => (.error, .error code message)
  | none =>
    let legs := engine.legs p.coordinates
    match container with
    | .document doc => (.ok, .document (writeDocument p legs doc))
    | .buffer bytes => (.ok, .buffer (bytes ++ routeBytes legs))

/-- The engine as a capability; it logs nothing and never panics. -/
def toEngine (engine : GreatCircle) : Engine where
  name := "GreatCircleEngine"
  route p container := pure (.ok (engine.route p container))

end GreatCircle

end RoutingGateway
