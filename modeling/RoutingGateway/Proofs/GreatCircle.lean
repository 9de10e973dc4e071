/-
One route in two encodings.

A buffer is read back by `readRoute`: the number of legs in four bytes, and
sixteen bytes for each leg. `readRoute_routeBytes` says that the legs of a route
come back from its bytes, by an induction on the legs that leaves open what
stands behind them. The document of the same route tells these legs one by one
(`TellsLeg`) and their sums, and `route_encodings` joins the two: whatever a
document says of lengths and times can be computed from the buffer.
-/
import Mathlib.Data.List.Forall2
import RoutingGateway.GreatCircle
import RoutingGateway.Proofs.LittleEndian

namespace RoutingGateway.GreatCircle

open RoutingGateway.LittleEndian

/-! ## Legs -/

theorem length_neighbours {α : Type} (points : List α) :
    (neighbours points).length = max points.length 1 - 1 := by
  match points with
  | [] => rfl
  | [_] => rfl
  | _ :: b :: rest =>
    have ih := length_neighbours (b :: rest)
    rw [neighbours, List.length_cons, ih]
    simp only [List.length_cons]
    omega

/-- A route has one leg less than coordinates, and none without coordinates. -/
theorem length_legs (engine : GreatCircle) (coordinates : List Coordinate) :
    (engine.legs coordinates).length = max coordinates.length 1 - 1 := by
  rw [legs, List.length_map, length_neighbours]

/-! ## Reading a buffer -/

/-- The legs in some bytes: a distance and a duration each, of eight bytes. -/
def readLegs : (count : Nat) → List UInt8 → List Leg
  | 0, _ => []
  | count + 1, bytes =>
    { distance := toFloat (bytes.take 8), duration := toFloat ((bytes.drop 8).take 8) } ::
      readLegs count (bytes.drop 16)

/-- The legs in a buffer: their number in four bytes, and the legs behind it. -/
def readRoute (bytes : List UInt8) : List Leg :=
  readLegs (decode (bytes.take 4)) (bytes.drop 4)

theorem length_legBytes (leg : Leg) : (legBytes leg).length = 16 := by simp [legBytes]

theorem length_flatMap_legBytes (legs : List Leg) :
    (legs.flatMap legBytes).length = 16 * legs.length := by
  induction legs with
  | nil => rfl
  | cons leg legs ih =>
    rw [List.flatMap_cons, List.length_append, length_legBytes, ih, List.length_cons]
    omega

theorem length_routeBytes (legs : List Leg) :
    (routeBytes legs).length = 4 + 16 * legs.length := by
  rw [routeBytes, List.length_append, length_encode, length_flatMap_legBytes]

/-- The legs in front of further bytes are read back. -/
theorem readLegs_flatMap_legBytes (legs : List Leg) (rest : List UInt8) :
    readLegs legs.length (legs.flatMap legBytes ++ rest) = legs := by
  induction legs with
  | nil => rfl
  | cons leg legs ih =>
    have hdistance (more : List UInt8) : (legBytes leg ++ more).take 8 = ofFloat leg.distance := by
      rw [legBytes, List.append_assoc, List.take_left' (length_ofFloat _)]
    have hduration (more : List UInt8) :
        ((legBytes leg ++ more).drop 8).take 8 = ofFloat leg.duration := by
      rw [legBytes, List.append_assoc, List.drop_left' (length_ofFloat _),
        List.take_left' (length_ofFloat _)]
    rw [List.flatMap_cons, List.append_assoc, List.length_cons, readLegs, hdistance, hduration,
      List.drop_left' (length_legBytes leg), ih, toFloat_ofFloat, toFloat_ofFloat]

/-- The leading word of a buffer is the number of legs, as long as four bytes can hold
it. -/
theorem decode_take_routeBytes {legs : List Leg} (h : legs.length < 2 ^ 32) :
    decode ((routeBytes legs).take 4) = legs.length := by
  have hmin : min legs.length (UInt32.size - 1) = legs.length :=
    Nat.min_eq_left (Nat.le_sub_one_of_lt h)
  rw [routeBytes, List.take_left' (length_encode 4 _), decode_encode, hmin]
  exact Nat.mod_eq_of_lt h

theorem readRoute_routeBytes {legs : List Leg} (h : legs.length < 2 ^ 32) :
    readRoute (routeBytes legs) = legs := by
  rw [readRoute, decode_take_routeBytes h, routeBytes, List.drop_left' (length_encode 4 _)]
  simpa using readLegs_flatMap_legBytes legs []

/-! ## Telling legs -/

/-- The JSON value tells the leg: its distance and its duration, which is its weight as
well. What is not finite is told as null (`Json.number`). -/
def TellsLeg (json : Json) (leg : Leg) : Prop :=
  ∃ fields, json = .object fields ∧
    Json.field? "distance" fields = some (.number leg.distance) ∧
    Json.field? "duration" fields = some (.number leg.duration) ∧
    Json.field? "weight" fields = some (.number leg.duration)

theorem tellsLeg_legJson (withSteps : Bool) (leg : Leg) (ends : Coordinate × Coordinate) :
    TellsLeg (legJson withSteps leg ends) leg :=
  ⟨_, rfl, rfl, rfl, rfl⟩

/-- The legs of a document tell the legs of the route in their order. -/
theorem forall₂_tellsLeg (withSteps : Bool) {legs : List Leg}
    {ends : List (Coordinate × Coordinate)} (h : legs.length = ends.length) :
    List.Forall₂ TellsLeg (List.zipWith (legJson withSteps) legs ends) legs := by
  induction legs generalizing ends with
  | nil => exact .nil
  | cons leg legs ih =>
    cases ends with
    | nil => cases h
    | cons pair ends => exact .cons (tellsLeg_legJson withSteps leg pair) (ih (Nat.succ.inj h))

theorem get?_routes_writeDocument (p : Parameters) (legs : List Leg) (doc : Document) :
    (writeDocument p legs doc).get? "routes" = some (.array [routeJson p legs]) := by
  rw [writeDocument, Document.get?_insert, if_neg (by decide), Document.get?_insert, if_pos rfl]

theorem get?_code_writeDocument (p : Parameters) (legs : List Leg) (doc : Document) :
    (writeDocument p legs doc).get? "code" = some (.string "Ok") := by
  rw [writeDocument, Document.get?_insert, if_neg (by decide), Document.get?_insert,
    if_neg (by decide), Document.get?_insert, if_pos rfl]

theorem get?_waypoints_writeDocument (p : Parameters) (legs : List Leg) (doc : Document) :
    (writeDocument p legs doc).get? "waypoints" = some (.array (waypoints p)) := by
  rw [writeDocument, Document.get?_insert, if_pos rfl]

/-! ## The two encodings -/

/-- The same parameters routed into a buffer and into a document. The buffer has its
exact length, begins with the number of legs and is read back to the legs, bit for
bit. The document has one route, which tells legs one by one as the buffer has
them; its own distance and duration are the sums of theirs from left to right,
starting from negative zero. -/
theorem route_encodings (engine : GreatCircle) (p : Parameters)
    (hexclude : engine.refusal? p.exclude = none)
    (hcount : max p.coordinates.length 1 - 1 < 2 ^ 32) :
    ∃ bytes doc route legs,
      engine.route p .newBuffer = (.ok, .buffer bytes) ∧
      bytes.length = 4 + 16 * (max p.coordinates.length 1 - 1) ∧
      decode (bytes.take 4) = max p.coordinates.length 1 - 1 ∧
      readRoute bytes = engine.legs p.coordinates ∧
      engine.route p .newDocument = (.ok, .document doc) ∧
      doc.get? "routes" = some (.array [.object route]) ∧
      Json.field? "legs" route = some (.array legs) ∧
      legs.length = max p.coordinates.length 1 - 1 ∧
      List.Forall₂ TellsLeg legs (readRoute bytes) ∧
      Json.field? "distance" route =
        some (.number (((readRoute bytes).map Leg.distance).foldl (· + ·) (-0.0))) ∧
      Json.field? "duration" route =
        some (.number (((readRoute bytes).map Leg.duration).foldl (· + ·) (-0.0))) := by
  have hlength := engine.length_legs p.coordinates
  have hread := readRoute_routeBytes (hlength ▸ hcount)
  have hends : (engine.legs p.coordinates).length = (neighbours p.coordinates).length := by
    rw [hlength, length_neighbours]
  have hbuffer : engine.route p .newBuffer =
      (.ok, .buffer (routeBytes (engine.legs p.coordinates))) := by
    simp only [route, hexclude, Container.newBuffer, List.nil_append]
  have hdocument : engine.route p .newDocument =
      (.ok, .document (writeDocument p (engine.legs p.coordinates) .empty)) := by
    simp only [route, hexclude, Container.newDocument]
  refine ⟨_, _, _, _, hbuffer, ?_, ?_, hread, hdocument, get?_routes_writeDocument .., rfl, ?_, ?_,
    ?_, ?_⟩
  · rw [length_routeBytes, hlength]
  · rw [decode_take_routeBytes (hlength ▸ hcount), hlength]
  · rw [List.length_zipWith, ← hends, Nat.min_self, hlength]
  · rw [hread]
    exact forall₂_tellsLeg p.steps hends
  · rw [hread]
    rfl
  · rw [hread]
    rfl

/-- One class of three may be excluded. The last two points are one and the same, and at
the speed zero the times are no finite numbers. -/
theorem route_encodings_standstill :
    let engine : GreatCircle := { speed := 0.0 }
    let p : Parameters :=
      { coordinates := [⟨1.0, 1.0⟩, ⟨2.0, 2.0⟩, ⟨2.0, 2.0⟩], exclude := ["toll"] }
    engine.refusal? p.exclude = none ∧ ∃ bytes, engine.route p .newBuffer = (.ok, .buffer bytes) ∧
      bytes.length = 36 ∧ decode (bytes.take 4) = 2 ∧
      readRoute bytes = engine.legs p.coordinates := by
  intro engine p
  have hexclude : engine.refusal? p.exclude = none := by decide
  obtain ⟨bytes, _, _, _, hroute, hlength, hnumber, hlegs, -⟩ :=
    route_encodings engine p hexclude (by decide)
  exact ⟨hexclude, bytes, hroute, hlength, hnumber, hlegs⟩

end RoutingGateway.GreatCircle
