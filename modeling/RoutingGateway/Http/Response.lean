/-
A response as the gateway builds it.

The content type is kept apart from the other headers, and setting a header
named content-type, in whatever case, sets it. The other headers are kept
under their names in lower case, one value each. `wire` is the response as
it goes out.
-/
import RoutingGateway.Container
import RoutingGateway.Http.Header

namespace RoutingGateway.Http

/-- A response. -/
structure Response where
  status : Nat
  /-- The code of the document in the body, when it has one. -/
  code : Option String
  contentType : String
  body : List UInt8
  /-- The other headers by their names in lower case. -/
  headers : List (String × String)
  deriving Repr, Inhabited

namespace Response

/-! ## Making -/

/-- A response with a body. -/
def new (status : Nat) (contentType : String) (body : List UInt8) : Response :=
  { status, code := none, contentType, body, headers := [] }

/-- A response that carries an answer. -/
def ofContainer (status : Nat) (container : Container) : Response :=
  let encoded := container.encode
  { status, code := container.code?, contentType := encoded.contentType, body := encoded.body
    headers := [] }

/-- A response that names an error. -/
def error (status : Nat) (code message : String) : Response :=
  ofContainer status (.error code message)

/-- The response of the probe. -/
def health : Response := ofContainer 200 (Container.newDocument.insert "status" (.string "ok"))

/-! ## Headers -/

/-- The value of a header besides the content type, in whatever case it is
named. -/
def header? (r : Response) (name : String) : Option String :=
  (r.headers.find? fun h => h.1 = name.toLower).map Prod.snd

/-- Replaces the value under a name, or adds the name. -/
def putHeader (name value : String) : List (String × String) → List (String × String)
  | [] => [(name, value)]
  | (key, old) :: rest =>
    if key = name then (key, value) :: rest else (key, old) :: putHeader name value rest

/-- Sets a header. -/
def setHeader (r : Response) (name value : String) : Response :=
  if name.toLower = "content-type" then { r with contentType := value }
  else { r with headers := putHeader name.toLower value r.headers }

end Response

/-! ## On the wire -/

/-- A response as it goes out: status, headers and body. -/
structure WireResponse where
  status : Nat
  headers : List (String × String)
  body : List UInt8
  deriving Repr, Inhabited

/-- The response in the place of one that cannot be sent. -/
def WireResponse.unsendable : WireResponse :=
  { status := 500, headers := [], body := Text.utf8 "Internal Server Error" }

/-- All headers of a response, the content type first. -/
def Response.allHeaders (r : Response) : List (String × String) :=
  ("content-type", r.contentType) :: r.headers

/-- What forbids the response to be sent, if anything does. -/
def Response.fault? (r : Response) : Option HeaderFault :=
  r.allHeaders.findSome? fun h => headerFault? h.1 h.2

/-- The response as it goes out. A status outside the three-digit range becomes
500; a header that may not be sent spoils the whole response. -/
def Response.wire (r : Response) : WireResponse :=
  match r.fault? with
  | some _ => .unsendable
  | none =>
    { status := if 100 ≤ r.status ∧ r.status ≤ 999 then r.status else 500
      headers := r.allHeaders, body := r.body }

end RoutingGateway.Http
