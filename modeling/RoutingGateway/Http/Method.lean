/-
The request methods that the gateway knows.
-/

namespace RoutingGateway.Http

/-- A request method. -/
inductive Method where
  | get
  | head
  | post
  | put
  | delete
  | patch
  | options
  deriving DecidableEq, Repr, Inhabited

namespace Method

/-- The spelling of a method. -/
def name : Method → String
  | get => "GET"
  | head => "HEAD"
  | post => "POST"
  | put => "PUT"
  | delete => "DELETE"
  | patch => "PATCH"
  | options => "OPTIONS"

/-- All methods. -/
def all : List Method := [get, head, post, put, delete, patch, options]

/-- The method with this spelling; case matters. -/
def ofName? (text : String) : Option Method := all.find? fun m => m.name = text

end Method

end RoutingGateway.Http
