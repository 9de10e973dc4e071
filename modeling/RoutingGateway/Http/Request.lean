/-
A request as the gateway sees it.

The target is split once, at its first question mark. What stands behind it
is the query, and its offset is where positions in the query count from. A
request that carries the coordinates as the last segment of its path takes
its route text from there instead (`pathQuery`).
-/
import RoutingGateway.Http.Header
import RoutingGateway.Http.Method
import RoutingGateway.Http.Uri

namespace RoutingGateway.Http

open RoutingGateway.Text

/-- A request. -/
structure Request where
  method : Method
  path : String
  /-- The query as it was sent; a target without a question mark has none. -/
  query : Option String
  headers : Headers
  deriving Repr, Inhabited

namespace Request

/-- The request for a target. -/
def ofTarget (method : Method) (target : String) : Request :=
  match cut '?' target.toList with
  | some (path, query) =>
    { method, path := String.ofList path, query := some (String.ofList query)
      headers := .empty }
  | none => { method, path := target, query := none, headers := .empty }

/-- The request for a URI that has been read, with its headers. -/
def ofUri (method : Method) (uri : Uri) (headers : Headers) : Request :=
  { method, path := uri.path, query := uri.query, headers }

/-- The query; empty when there is none. -/
def queryText (r : Request) : String := r.query.getD ""

/-- The byte offset of the query in the target. Without a question mark the
empty query stands at the end. -/
def queryOffset (r : Request) : Nat :=
  match r.query with
  | some _ => r.path.utf8ByteSize + 1
  | none => r.path.utf8ByteSize

/-- The route text of a target whose last path segment is `coordinates`, and
its byte offset in the target: the segment, and a query that is not empty
behind a question mark, just as the target has them. -/
def pathQuery (r : Request) (coordinates : String) : Nat × String :=
  let start := r.path.utf8ByteSize - coordinates.utf8ByteSize
  match r.query with
  | none => (start, coordinates)
  | some query => (start, if query = "" then coordinates else coordinates ++ "?" ++ query)

/-- The value of a header, in whatever case it is named. -/
def header? (r : Request) (name : String) : Option String := r.headers.get? name

/-- Sets a header. What is no header name or may not be sent as a value is
ignored; a value that no one can read takes the place of a readable one. -/
def setHeader (r : Request) (name value : String) : Request :=
  if isHeaderName name && isHeaderValue value then { r with headers := r.headers.set name value }
  else r

end Request

end RoutingGateway.Http
