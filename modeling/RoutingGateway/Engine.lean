/-
Routing engines.

An engine is handed valid parameters and a container of the wanted kind. It
writes into the container, or puts another in its place, and says how the
request ended. It may log and it may panic.
-/
import RoutingGateway.Event

namespace RoutingGateway

/-- The capability of computing a route. -/
structure Engine where
  /-- The name that logs show. -/
  name : String := "Unknown"
  route : Parameters → Container → Logged (Except Panic (Status × Container))

end RoutingGateway
