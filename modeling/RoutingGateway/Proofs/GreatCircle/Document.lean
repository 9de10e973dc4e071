/-
The document of a route, part by part.

Its parts are counted from the same coordinates. Leg `i` goes from coordinate `i` to
coordinate `i + 1`, and its steps say so (`TellsLegBetween`); waypoint `i` stands at
coordinate `i` and repeats the hint of this place (`TellsWaypoint`). So the step
at which a leg arrives, the step at which the next one departs and the waypoint
between them name one and the same place.

What has to be right for this are the places in four lists: neighbours
(`getElem?_neighbours`), legs (`getElem?_legs`), waypoints and hints
(`getElem?_waypoints`). `route_document` joins them to the whole document.
-/
import RoutingGateway.Proofs.GreatCircle

namespace RoutingGateway.GreatCircle

/-! ## What the parts tell -/

/-- The JSON value tells a step: what is done, where, and its distance and duration. -/
def TellsStep (json : Json) (kind : String) (place : Coordinate) (distance duration : Json) :
    Prop :=
  ∃ fields maneuver, json = .object fields ∧
    Json.field? "distance" fields = some distance ∧
    Json.field? "duration" fields = some duration ∧
    Json.field? "maneuver" fields = some (.object maneuver) ∧
    Json.field? "type" maneuver = some (.string kind) ∧
    Json.field? "location" maneuver = some (.array [.number place.lon, .number place.lat])

/-- The JSON value tells a leg from one coordinate to another. With steps there are two of
them: it departs at the one with its own distance and duration, and arrives at the
other with nothing left to go. Without steps there are none. -/
def TellsLegBetween (engine : GreatCircle) (withSteps : Bool) (json : Json)
    (start finish : Coordinate) : Prop :=
  ∃ fields distance duration steps, json = .object fields ∧
    distance = .number (start.distance finish) ∧
    duration = .number (start.distance finish / engine.speed) ∧
    Json.field? "distance" fields = some distance ∧
    Json.field? "duration" fields = some duration ∧
    Json.field? "steps" fields = some (.array steps) ∧
    (withSteps = true → ∃ depart arrive, steps = [depart, arrive] ∧
      TellsStep depart "depart" start distance duration ∧
      TellsStep arrive "arrive" finish (.float 0.0) (.float 0.0)) ∧
    (withSteps = false → steps = [])

/-- The JSON value tells the waypoint at coordinate `i` of a request. It has a hint exactly where
hints are wanted and the request has one for this place, and then it is this text. -/
def TellsWaypoint (p : Parameters) (i : Nat) (json : Json) (place : Coordinate) : Prop :=
  ∃ fields, json = .object fields ∧
    Json.field? "location" fields = some (.array [.number place.lon, .number place.lat]) ∧
    ∀ value, Json.field? "hint" fields = some value ↔
      p.generateHints = true ∧ ∃ text, p.hints[i]? = some (some text) ∧ value = .string text

theorem tellsStep_step (kind : String) (place : Coordinate) (distance duration : Float) :
    TellsStep (step kind place distance duration) kind place (.number distance)
      (.number duration) :=
  ⟨_, _, rfl, rfl, rfl, rfl, rfl, rfl⟩

theorem number_zero : Json.number 0.0 = .float 0.0 := if_pos (by decide)

theorem tellsLegBetween_legJson (engine : GreatCircle) (withSteps : Bool)
    (start finish : Coordinate) :
    engine.TellsLegBetween withSteps
      (legJson withSteps (engine.leg (start, finish)) (start, finish)) start finish := by
  refine ⟨_, _, _, _, rfl, rfl, rfl, rfl, rfl, rfl, fun hsteps => ?_, fun hsteps => ?_⟩
  · rw [if_pos hsteps]
    have harrive := tellsStep_step "arrive" finish 0.0 0.0
    rw [number_zero] at harrive
    exact ⟨_, _, rfl, tellsStep_step "depart" start _ _, harrive⟩
  · rw [hsteps]
    rfl

theorem hintAt_eq_some_iff {p : Parameters} {i : Nat} {hint : String} :
    hintAt p i = some hint ↔ p.generateHints = true ∧ p.hints[i]? = some (some hint) := by
  unfold hintAt
  cases p.generateHints with
  | true => simp [Option.join_eq_some_iff]
  | false => simp

theorem field?_hint_waypoint {hint : Option String} {place : Coordinate} {fields}
    (h : waypoint hint place = .object fields) :
    Json.field? "hint" fields = hint.map .string := by
  cases hint <;> cases h <;> rfl

theorem tellsWaypoint_waypoint (p : Parameters) (i : Nat) (place : Coordinate) :
    TellsWaypoint p i (waypoint (hintAt p i) place) place := by
  refine ⟨_, rfl, rfl, fun value => ?_⟩
  rw [field?_hint_waypoint rfl, Option.map_eq_some_iff]
  simp only [hintAt_eq_some_iff, and_assoc, exists_and_left, eq_comm (b := value)]

/-! ## Places in lists -/

theorem getElem?_neighbours {α : Type} {points : List α} {i : Nat} {a b : α} :
    (neighbours points)[i]? = some (a, b) ↔ points[i]? = some a ∧ points[i + 1]? = some b := by
  induction points using neighbours.induct generalizing i with
  | case1 x y rest ih =>
    cases i with
    | zero => simp [neighbours]
    | succ i =>
      rw [neighbours, List.getElem?_cons_succ, ih]
      simp
  | case2 points hshort =>
    rcases points with _ | ⟨x, _ | ⟨y, rest⟩⟩
    · simp [neighbours]
    · simp [neighbours]
    · exact absurd rfl (hshort x y rest)

/-- Leg `i` of the document is the leg from coordinate `i` to the one behind it. -/
theorem getElem?_legs (engine : GreatCircle) (p : Parameters) {i : Nat}
    {start finish : Coordinate} (hstart : p.coordinates[i]? = some start)
    (hfinish : p.coordinates[i + 1]? = some finish) :
    (List.zipWith (legJson p.steps) (engine.legs p.coordinates) (neighbours p.coordinates))[i]? =
      some (legJson p.steps (engine.leg (start, finish)) (start, finish)) := by
  have hends := getElem?_neighbours.mpr ⟨hstart, hfinish⟩
  rw [List.getElem?_zipWith, legs, List.getElem?_map, hends]
  rfl

theorem getElem?_waypoints {p : Parameters} {i : Nat} {place : Coordinate}
    (h : p.coordinates[i]? = some place) :
    (waypoints p)[i]? = some (waypoint (hintAt p i) place) := by
  rw [waypoints, List.getElem?_mapIdx, h]
  rfl

/-! ## The whole document -/

/-- What a route that is not refused writes into a document: one route with a leg between any
two neighbouring coordinates, and a waypoint for each coordinate, all of them in the
order of the coordinates. A waypoint has the hint of its own place, however many hints
there are. In an empty document the three fields stand in this order. -/
theorem route_document (engine : GreatCircle) (p : Parameters)
    (hexclude : engine.refusal? p.exclude = none) (doc : Document) :
    ∃ (written : Document) (route : List (String × Json)) (legs waypoints : List Json),
      engine.route p (.document doc) = (.ok, .document written) ∧
      written.get? "code" = some (.string "Ok") ∧
      written.get? "routes" = some (.array [.object route]) ∧
      Json.field? "legs" route = some (.array legs) ∧
      legs.length = max p.coordinates.length 1 - 1 ∧
      (∀ i start finish, p.coordinates[i]? = some start → p.coordinates[i + 1]? = some finish →
        ∃ leg, legs[i]? = some leg ∧ engine.TellsLegBetween p.steps leg start finish) ∧
      written.get? "waypoints" = some (.array waypoints) ∧
      waypoints.length = p.coordinates.length ∧
      (∀ i place, p.coordinates[i]? = some place →
        ∃ waypoint, waypoints[i]? = some waypoint ∧ TellsWaypoint p i waypoint place) ∧
      (doc = .empty → written.keys = ["code", "routes", "waypoints"]) := by
  have hroute : engine.route p (.document doc) =
      (.ok, .document (writeDocument p (engine.legs p.coordinates) doc)) := by
    simp only [route, hexclude]
  refine ⟨_, _, _, _, hroute, get?_code_writeDocument .., get?_routes_writeDocument .., rfl, ?_,
    fun i start finish hstart hfinish => ?_, get?_waypoints_writeDocument .., ?_,
    fun i place hplace => ?_, fun hdoc => ?_⟩
  · rw [List.length_zipWith, length_legs, length_neighbours, Nat.min_self]
  · exact ⟨_, engine.getElem?_legs p hstart hfinish, engine.tellsLegBetween_legJson _ _ _⟩
  · rw [waypoints, List.length_mapIdx]
  · exact ⟨_, getElem?_waypoints hplace, tellsWaypoint_waypoint p i place⟩
  · rw [hdoc]
    rfl

/-- There are three coordinates and two hints, of which the first is left open. The second leg has
its two steps; the waypoint in the middle has a hint, and the last one has none. -/
theorem route_document_sparseHints :
    let engine : GreatCircle := {}
    let p : Parameters :=
      { coordinates := [⟨1.0, 1.0⟩, ⟨2.0, 2.0⟩, ⟨3.0, 3.0⟩], hints := [none, some "a"]
        steps := true, exclude := ["toll"] }
    engine.refusal? p.exclude = none ∧
      ∃ (written : Document) (route middle last : List (String × Json))
        (legs waypoints : List Json),
        engine.route p .newDocument = (.ok, .document written) ∧
        written.get? "routes" = some (.array [.object route]) ∧
        Json.field? "legs" route = some (.array legs) ∧
        (∃ leg, legs[1]? = some leg ∧ engine.TellsLegBetween true leg ⟨2.0, 2.0⟩ ⟨3.0, 3.0⟩) ∧
        written.get? "waypoints" = some (.array waypoints) ∧
        waypoints[1]? = some (.object middle) ∧
        Json.field? "hint" middle = some (.string "a") ∧
        waypoints[2]? = some (.object last) ∧ Json.field? "hint" last = none := by
  intro engine p
  have hexclude : engine.refusal? p.exclude = none := by decide
  obtain ⟨written, route, legs, waypoints, hwritten, -, hroute, hlegs, -, hleg, hwaypoints, -,
    hwaypoint, -⟩ := route_document engine p hexclude .empty
  obtain ⟨_, hmiddle, middle, rfl, -, hhint⟩ := hwaypoint 1 ⟨2.0, 2.0⟩ rfl
  obtain ⟨_, hlast, last, rfl, -, hhint'⟩ := hwaypoint 2 ⟨3.0, 3.0⟩ rfl
  have hnone : Json.field? "hint" last = none :=
    Option.eq_none_iff_forall_ne_some.mpr fun value hvalue => by
      obtain ⟨-, text, htext, -⟩ := (hhint' value).mp hvalue
      cases htext
  exact ⟨hexclude, written, route, middle, last, legs, waypoints, hwritten, hroute, hlegs,
    hleg 1 _ _ rfl rfl, hwaypoints, hmiddle, (hhint _).mpr ⟨rfl, "a", rfl, rfl⟩, hlast, hnone⟩

end RoutingGateway.GreatCircle
