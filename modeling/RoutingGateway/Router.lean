/-
Which endpoint a path belongs to, and which service answers a profile.

Paths are matched by a table of patterns that starts with the built-in ones.
Services are registered under the names of profiles; a name that is taken
cannot be registered again.
-/
import RoutingGateway.GatewayError
import RoutingGateway.Path.Table
import RoutingGateway.Service

namespace RoutingGateway

/-- What a path refers to. -/
inductive Endpoint where
  /-- Route queries. -/
  | route
  /-- The probe that tells whether the gateway is up. -/
  | health
  deriving DecidableEq, Repr, Inhabited

/-- The name of an endpoint. -/
def Endpoint.name : Endpoint → String
  | .route => "Route"
  | .health => "Health"

/-- The pattern of a braced parameter. -/
def Path.param (name : String) : Path.Pattern := [.parameter name]

/-- The pattern of literal text. -/
def Path.text (text : String) : Path.Pattern := text.toList.map .literal

/-- The matcher of paths and the register of profiles. -/
structure Router where
  table : Path.Table Endpoint
  /-- The services by profile, in the order of registration. -/
  services : List (String × Service)

namespace Router

/-! ## Building -/

/-- The pattern of route queries. -/
def routePattern : Path.Pattern := Path.text "/route/v1/" ++ Path.param "profile"

/-- The pattern of route queries with the coordinates in the path. -/
def coordinatesPattern : Path.Pattern :=
  routePattern ++ Path.text "/" ++ Path.param "coordinates"

/-- The pattern of the probe. -/
def healthPattern : Path.Pattern := Path.text "/health"

/-- The router with the built-in patterns and no profile. -/
def new : Router where
  table :=
    ⟨[{ pattern := routePattern, value := some .route },
      { pattern := coordinatesPattern, value := some .route },
      { pattern := healthPattern, value := some .health }]⟩
  services := []

/-- The fault of registering a refused pattern. Running out of letters for the
parameters is a panic. -/
def refusal (pattern : String) : Path.PatternError → GatewayError
  | .tooManyParameters => .registration ⟨Path.PatternError.tooManyParameters.message⟩
  | e => .invalidRoutePattern pattern e.message

/-- Registers a path pattern. It says why a pattern is refused, and a refused one
may still leave its mark on the table. -/
def addEndpoint (router : Router) (pattern : String) (endpoint : Endpoint) :
    Except GatewayError Unit × Router :=
  match Path.Pattern.read pattern with
  | .error e => (.error (refusal pattern e), router)
  | .ok tokens =>
    let (error?, table) := router.table.insert tokens endpoint
    match error? with
    | some e => (.error (refusal pattern e), { router with table })
    | none => (.ok (), { router with table })

/-- The service of a profile. -/
def service? (router : Router) (profile : String) : Option Service :=
  (router.services.find? fun s => s.1 = profile).map Prod.snd

/-- Registers the service of a profile. A refused registration changes nothing. -/
def addProfile (router : Router) (profile : String) (service : Service) :
    Except GatewayError Unit × Router :=
  match router.service? profile with
  | some _ => (.error (.duplicateProfile profile), router)
  | none => (.ok (), { router with services := router.services ++ [(profile, service)] })

/-! ## Looking up -/

/-- Matches a path. -/
def matchPath (router : Router) (path : String) :
    Except GatewayError (Path.Match Endpoint) :=
  match router.table.match? path with
  | some m => .ok m
  | none => .error (.routeNotFound path)

/-- The registered profiles in the order of their names. -/
def profiles (router : Router) : List String :=
  (router.services.map Prod.fst).mergeSort fun a b => decide (a ≤ b)

/-- The text of a router. -/
def describe (router : Router) : String :=
  "Router \x7b profiles: " ++ Text.quotedList router.profiles ++ ", .. \x7d"

end Router

/-- The profile a matched path names. -/
def Path.Match.profile? (m : Path.Match Endpoint) : Option String := m.parameter? "profile"

/-- The coordinates a matched path holds. -/
def Path.Match.coordinates? (m : Path.Match Endpoint) : Option String :=
  m.parameter? "coordinates"

end RoutingGateway
