/-
The side of the gateway that faces the network.

A request arrives with a method as the client spelt it, a URI and headers.
A method the gateway does not know is refused at once, without any
middleware. Every other request is told the address of its client, whatever
the client itself says about that, and answered by the server.
-/
import RoutingGateway.Server

namespace RoutingGateway

open RoutingGateway.Http

/-- A request as it arrives. -/
structure Arrival where
  /-- The method as the client spelt it. -/
  method : String
  uri : Uri
  headers : Headers
  /-- The address of the client, without its port. -/
  client : String

namespace Arrival

/-- The request with a known method. -/
def request (arrival : Arrival) (method : Method) : Request :=
  (Request.ofUri method arrival.uri arrival.headers).setHeader Server.clientHeader arrival.client

/-- Whether the response goes out without its body. -/
def isHead (arrival : Arrival) : Bool := arrival.method = Method.head.name

end Arrival

namespace Server

/-- Sends a response, or what stands in its place. -/
def send (response : Response) : Logged WireResponse := do
  if let some fault := response.fault? then Logged.log (.unsendable fault.message)
  return response.wire

/-- Answers a request that arrived. -/
def handle (server : Server) (surroundings : Surroundings) (arrival : Arrival) :
    Logged WireResponse := do
  match Method.ofName? arrival.method with
  | none => send Refusal.methodUnknown.response
  | some method => send (← server.process surroundings (arrival.request method))

end Server

end RoutingGateway
