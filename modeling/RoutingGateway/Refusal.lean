/-
Requests the gateway itself turns down.

A refusal comes before any route query is read, or in the place of an answer
that an engine failed to give. It is answered by a document that names a code
and says in words what is wrong.
-/
import RoutingGateway.Http.Method
import RoutingGateway.Http.Response

namespace RoutingGateway

open RoutingGateway.Http

/-- Why the gateway turns a request down. -/
inductive Refusal where
  /-- The path matches no pattern. -/
  | pathUnknown (path : String)
  /-- The path is good, the method is not the one to ask with. -/
  | methodNotAllowed (method : Method)
  /-- The method is not one the gateway knows. -/
  | methodUnknown
  /-- The pattern for route queries has no place for a profile. -/
  | profileMissing
  | profileUnknown (profile : String)
  | queryTooLong (limit : Nat)
  /-- The engine gave up. -/
  | engineFailed
  deriving DecidableEq, Repr

namespace Refusal

/-- The status of the response. -/
def status : Refusal → Nat
  | pathUnknown _ => 404
  | methodNotAllowed _ => 405
  | methodUnknown => 405
  | profileMissing => 404
  | profileUnknown _ => 404
  | queryTooLong _ => 414
  | engineFailed => 500

/-- The code in the document. -/
def code : Refusal → String
  | pathUnknown _ => "InvalidUrl"
  | methodNotAllowed _ => "InvalidMethod"
  | methodUnknown => "InvalidMethod"
  | profileMissing => "InvalidUrl"
  | profileUnknown _ => "InvalidService"
  | queryTooLong _ => "TooBig"
  | engineFailed => "InternalError"

/-- The message in the document. -/
def message : Refusal → String
  | pathUnknown path => "URL " ++ path ++ " not found"
  | methodNotAllowed method => "Method " ++ method.name ++ " not allowed"
  | methodUnknown => "Unsupported method"
  | profileMissing => "Missing profile"
  | profileUnknown profile => "Profile " ++ profile ++ " not found!"
  | queryTooLong limit => "Query string longer than " ++ toString limit ++ " bytes"
  | engineFailed => "Route dispatch failed"

/-- The response that turns the request down. -/
def response (refusal : Refusal) : Response :=
  .error refusal.status refusal.code refusal.message

end Refusal

end RoutingGateway
