/-
Points on the globe and the great-circle distance between them.

Everything here is double-precision arithmetic in a fixed order; the
trigonometric functions are those of the platform.
-/

namespace RoutingGateway

/-- A geographic point in degrees. -/
structure Coordinate where
  lon : Float
  lat : Float
  deriving Inhabited, Repr

namespace Coordinate

/-- Whether both components are inside their ranges, ends included. What is
not a number is inside no range. -/
def isValid (c : Coordinate) : Bool :=
  -180.0 ≤ c.lon && c.lon ≤ 180.0 && -90.0 ≤ c.lat && c.lat ≤ 90.0

/-! ## Distance -/

/-- The mean radius of the Earth in kilometres. -/
def earthRadiusKm : Float := 6371.0

/-- The double nearest to π. -/
def pi : Float := 3.141592653589793

/-- Degrees as radians. -/
def radians (degrees : Float) : Float := degrees * (pi / 180.0)

/-- The square of the sine of half an angle. -/
def sinHalfSquared (angle : Float) : Float := (angle / 2.0).sin * (angle / 2.0).sin

/-- The great-circle distance in metres, by the haversine formula. -/
def distance (start finish : Coordinate) : Float :=
  let dLat := radians (finish.lat - start.lat)
  let dLon := radians (finish.lon - start.lon)
  let a := sinHalfSquared dLat +
    sinHalfSquared dLon * (radians start.lat).cos * (radians finish.lat).cos
  let angle := 2.0 * a.sqrt.asin
  earthRadiusKm * angle * 1000.0

end Coordinate

end RoutingGateway
