/-
From a request to its response.

A request is given a name, unless it brings one, and passes the chain of
middlewares. Where none of them answers it, it is dispatched: the path and
the method decide where it goes, and a route query is run by the service of
its profile. Every response carries the name of its request and passes the
chain back.

What a request meets that is not in it, such as the time an engine takes, is
handed in (`Surroundings`), so the response is a function of its arguments.
-/
import RoutingGateway.Middleware
import RoutingGateway.Network.SocketAddress
import RoutingGateway.Refusal
import RoutingGateway.Router

namespace RoutingGateway

open RoutingGateway.Http RoutingGateway.Network

/-! ## Servers -/

/-- How a server is set up. -/
structure ServerConfig where
  /-- Where the server listens. -/
  address : SocketAddress := .v4 { octets := #v[127, 0, 0, 1] } 5000
  /-- Whether a connection stays open for further requests. -/
  keepAlive : Bool := true
  /-- How long open connections may take to finish when the server stops. -/
  shutdownSeconds : Nat := 30
  /-- The longest query that is read, in bytes. -/
  maxQueryLength : Nat := 65536
  deriving DecidableEq, Repr

/-- What a request meets on its way. -/
structure Surroundings where
  /-- The name for a request that brings none. -/
  requestId : String
  /-- How long the engine takes, in nanoseconds. -/
  elapsed : Nat
  /-- The name of the task the engine runs in. -/
  task : String

/-- A server: its paths and profiles, and the middlewares around them. -/
structure Server where
  config : ServerConfig
  router : Router
  middlewares : List Middleware

namespace Server

/-! ## Dispatch -/

/-- Where an acceptable request goes. -/
inductive Destination where
  /-- The probe. -/
  | health
  /-- A service that answers route queries, with the text of the query and its
  byte offset in the target. -/
  | service (service : Service) (offset : Nat) (query : String)

/-- The route query of a request whose path was matched: the last segment of the
path and what follows it where the pattern has a place for coordinates, and
what stands behind the question mark elsewhere. -/
def routeQuery (request : Request) (found : Path.Match Endpoint) : Nat × String :=
  match found.coordinates? with
  | some coordinates => request.pathQuery coordinates
  | none => (request.queryOffset, request.queryText)

/-- Decides where a request goes. -/
def destination (server : Server) (request : Request) : Except Refusal Destination := do
  let .ok found := server.router.matchPath request.path | throw (.pathUnknown request.path)
  if request.method ≠ .get then throw (.methodNotAllowed request.method)
  match found.value with
  | .health => return .health
  | .route =>
    let some profile := found.profile? | throw .profileMissing
    let some service := server.router.service? profile | throw (.profileUnknown profile)
    let (offset, query) := routeQuery request found
    if server.config.maxQueryLength < query.utf8ByteSize then
      throw (.queryTooLong server.config.maxQueryLength)
    return .service service offset query

/-- The status of the response to a query that was run. A document with a code
names a fault of the client; any other failure is the server's. -/
def statusOf (status : Status) (container : Container) : Nat :=
  match status with
  | .ok => 200
  | .error => if container.code?.isSome then 400 else 500

/-- Answers a request that no middleware answered. -/
def dispatch (server : Server) (surroundings : Surroundings) (request : Request) :
    Logged Response := do
  match server.destination request with
  | .error refusal => return refusal.response
  | .ok .health => return .health
  | .ok (.service service offset query) =>
    match ← service.run surroundings.elapsed offset query with
    | .ok (status, container) => return .ofContainer (statusOf status container) container
    | .error panic =>
      Logged.log (.dispatchFailed (GatewayError.engineTask surroundings.task panic).message)
      return Refusal.engineFailed.response

/-! ## The whole way -/

/-- The request under a name of its own. -/
def named (surroundings : Surroundings) (request : Request) : Request :=
  match request.header? RequestId.header with
  | some _ => request
  | none => request.setHeader RequestId.header surroundings.requestId

/-- The response with the name of its request. -/
def answering (request : Request) (response : Response) : Response :=
  match request.header? RequestId.header with
  | some name => response.setHeader RequestId.header name
  | none => response

/-- Answers a request. -/
def process (server : Server) (surroundings : Surroundings) (request : Request) :
    Logged Response := do
  let request := named surroundings request
  let response ←
    match ← Middleware.runBefore request server.middlewares with
    | .proceed => server.dispatch surroundings request
    | .respond response => pure response
  Middleware.runAfter request server.middlewares (answering request response)

/-- The header that names the client. -/
def clientHeader : String := "x-client-ip"

/-- Answers a request that comes from no network. -/
def answer (server : Server) (surroundings : Surroundings) (method : Method)
    (target : String) : Logged Response :=
  server.process surroundings ((Request.ofTarget method target).setHeader clientHeader "test")

end Server

end RoutingGateway
