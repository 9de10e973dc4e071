/-
Faults of the gateway itself.

A query that is malformed or inconsistent is not a fault: it is answered by a
document. Faults concern the setting up of the gateway, paths that lead
nowhere, and engines that give up.
-/
import RoutingGateway.Event

namespace RoutingGateway

/-- A fault of the gateway. -/
inductive GatewayError where
  /-- The listener cannot be set up at `address`. -/
  | bind (address source : String)
  | routeNotFound (path : String)
  | invalidRoutePattern (pattern reason : String)
  /-- The registration of a pattern panicked. -/
  | registration (panic : Panic)
  | duplicateProfile (profile : String)
  /-- The engine's task panicked; `task` names it. -/
  | engineTask (task : String) (panic : Panic)
  | io (source : String)
  deriving DecidableEq, Repr

namespace GatewayError

/-- The wording of a fault. -/
def message : GatewayError → String
  | bind address source => "Failed to bind server to " ++ address ++ ": " ++ source
  | routeNotFound path => "No route found for path: " ++ path
  | invalidRoutePattern pattern reason =>
    "Invalid route pattern: " ++ pattern ++ ": " ++ reason
  | registration panic => panic.reason
  | duplicateProfile profile => "Profile already registered: " ++ profile
  | engineTask task panic =>
    "Engine task failed: task " ++ task ++ " panicked with message " ++ Text.quoted panic.reason
  | io source => "IO error: " ++ source

/-- The fault underneath, where there is one. -/
def source? : GatewayError → Option String
  | bind _ source => some source
  | io source => some source
  | _ => none

end GatewayError

end RoutingGateway
