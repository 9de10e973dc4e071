/-
Middleware around the gateway.

A middleware sees a request before it is dispatched, and may answer it there
and then; and it sees every response on its way out. Requests pass the
chain in the order of registration, responses in the reverse order, and a
response passes all of it, also where a request was answered early.
-/
import RoutingGateway.Event
import RoutingGateway.Http.Request
import RoutingGateway.Http.RequestId
import RoutingGateway.Http.Response

namespace RoutingGateway

open RoutingGateway.Http

/-- What a middleware decides about a request. -/
inductive Decision where
  | proceed
  | respond (response : Response)
  deriving Repr

/-- A middleware: what it does before dispatch and after the response. -/
structure Middleware where
  /-- The name that logs show. -/
  name : String := "Unknown"
  before : Request → Logged Decision := fun _ => pure .proceed
  after : Request → Response → Logged Response := fun _ response => pure response

namespace Middleware

/-! ## Chains -/

/-- Asks the middlewares in order, up to the first that answers. -/
def runBefore (request : Request) : List Middleware → Logged Decision
  | [] => pure .proceed
  | m :: rest => do
    match ← m.before request with
    | .proceed => runBefore request rest
    | .respond response => return .respond response

/-- Hands a response through the middlewares, the last one first. -/
def runAfter (request : Request) : List Middleware → Response → Logged Response
  | [], response => pure response
  | m :: rest, response => do
    let response ← runAfter request rest response
    m.after request response

/-! ## Logging -/

/-- The name of a request in logs. -/
def requestIdText (request : Request) : String := (request.header? RequestId.header).getD "-"

/-- Logs every request and every response. -/
def logging : Middleware where
  name := "LoggingMiddleware"
  before request := do
    Logged.log (.requestReceived request.method.name request.path
      request.queryText.utf8ByteSize (requestIdText request))
    return .proceed
  after request response := do
    Logged.log (.responseSent request.method.name request.path response.status
      (response.code.getD "-") (requestIdText request))
    return response

/-! ## Sharing across origins -/

/-- Lets pages of an origin use the gateway, or of any. -/
def cors (origin : String := "*") : Middleware where
  name := "CorsMiddleware"
  after _ response :=
    pure (((response.setHeader "Access-Control-Allow-Origin" origin).setHeader
      "Access-Control-Allow-Methods" "GET, OPTIONS").setHeader
      "Access-Control-Allow-Headers" "Content-Type")

end Middleware

end RoutingGateway
