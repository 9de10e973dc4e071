/-
Names of requests.

Each request carries a name under which logs and answers show it. A client
may bring one; otherwise the gateway makes one up from the time of arrival
and a running number, so that no two of its own agree.
-/
import RoutingGateway.Text.Hex

namespace RoutingGateway.Http.RequestId

/-- The header that names a request. -/
def header : String := "x-request-id"

/-- The name of the request that arrived at this time, in nanoseconds, as the
one of this number. -/
def generate (nanoseconds number : Nat) : String :=
  String.ofList (Text.hexDigits nanoseconds ++ '-' :: Text.hexDigits number)

end RoutingGateway.Http.RequestId
