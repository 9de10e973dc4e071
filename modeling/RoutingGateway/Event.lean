/-
What the gateway logs.

An event is a value; what it says is derived from it: its level, its
message and its other fields. A computation that logs is a value together
with the events in their order (`Logged`), so a statement about the log is a
statement about a list.
-/
import RoutingGateway.Container
import RoutingGateway.Query.Reading
import RoutingGateway.Validation

namespace RoutingGateway

/-! ## Levels -/

/-- The weight of an event, the heaviest first. -/
inductive Level where
  | error
  | warn
  | info
  | debug
  | trace
  deriving DecidableEq, Repr

/-- The name of a level. -/
def Level.name : Level → String
  | .error => "ERROR"
  | .warn => "WARN"
  | .info => "INFO"
  | .debug => "DEBUG"
  | .trace => "TRACE"

/-! ## Events -/

/-- A log event. -/
inductive Event where
  /-- A query holds `list` where its coordinates should be. -/
  | noCoordinates (list : String)
  /-- Reading a query stopped in front of a rejected pair. -/
  | readingStopped (offset : Nat) (error : Query.PairError)
  /-- A query was refused; `position` counts from the start of the target. -/
  | malformedQuery (position : Nat)
  | invalidOptions (error : OptionError)
  /-- A buffer has no room for the time the engine took. -/
  | durationSkipped
  | dispatched (engine : String) (status : Status) (coordinates elapsed : Nat)
  | requestReceived (method path : String) (queryLength : Nat) (requestId : String)
  | responseSent (method path : String) (status : Nat) (code requestId : String)
  | dispatchFailed (reason : String)
  /-- A response cannot be sent. -/
  | unsendable (reason : String)
  | starting (version : String) (speed : Float)
  | listening (address : String) (profiles : List String)
  | connectionFailed (client reason : String)
  /-- The program was told to stop. -/
  | stopping
  /-- Every connection finished in time. -/
  | drained
  | drainTimedOut
  | stopped
  deriving Repr

namespace Event

/-- The level of an event. -/
def level : Event → Level
  | noCoordinates _ => .trace
  | readingStopped .. => .trace
  | malformedQuery _ => .debug
  | invalidOptions _ => .debug
  | durationSkipped => .trace
  | dispatched .. => .debug
  | requestReceived .. => .info
  | responseSent .. => .info
  | dispatchFailed _ => .error
  | unsendable _ => .error
  | starting .. => .info
  | listening .. => .info
  | connectionFailed .. => .warn
  | stopping => .info
  | drained => .info
  | drainTimedOut => .warn
  | stopped => .info

/-- The message of an event. -/
def message : Event → String
  | noCoordinates _ => "query does not start with coordinates"
  | readingStopped .. => "query parse stopped"
  | malformedQuery _ => "malformed route query"
  | invalidOptions _ => "invalid route options"
  | durationSkipped => "binary result, duration not annotated"
  | dispatched .. => "route dispatched"
  | requestReceived .. => "Request received"
  | responseSent .. => "Response sent"
  | dispatchFailed reason => "Route dispatch failed: " ++ reason
  | unsendable reason => "Failed to build response: " ++ reason
  | starting .. => "Starting routegate"
  | listening .. => "Server listening"
  | connectionFailed _ reason => "Error serving connection: " ++ reason
  | stopping => "Shutdown signal received, stopping server..."
  | drained => "All connections closed"
  | drainTimedOut => "Shutdown timeout reached with connections still open"
  | stopped => "Server stopped"

/-- The fields of an event besides its message. -/
def fields : Event → List (String × Json)
  | noCoordinates list => [("coordinates", .string list)]
  | readingStopped offset error =>
    [("offset", .int offset), ("error", .string error.message)]
  | malformedQuery position => [("position", .int position)]
  | invalidOptions error =>
    [("parameter", .string (Text.quotedOption error.parameter?)),
      ("code", .string error.kind)]
  | durationSkipped => []
  | dispatched engine status coordinates elapsed =>
    [("engine", .string engine), ("status", .string status.name),
      ("coordinates", .int coordinates), ("duration_nanos", .int elapsed)]
  | requestReceived method path queryLength requestId =>
    [("method", .string method), ("path", .string path), ("query_len", .int queryLength),
      ("request_id", .string requestId)]
  | responseSent method path status code requestId =>
    [("method", .string method), ("path", .string path), ("status", .int status),
      ("code", .string code), ("request_id", .string requestId)]
  | dispatchFailed _ => []
  | unsendable _ => []
  | starting version speed =>
    [("version", .string version), ("speed_mps", .number speed)]
  | listening address profiles =>
    [("address", .string address), ("profiles", .string (Text.quotedList profiles))]
  | connectionFailed client _ => [("remote", .string client)]
  | stopping => []
  | drained => []
  | drainTimedOut => []
  | stopped => []

/-- The target that an event is logged under. -/
def target : Event → String
  | noCoordinates _ => "routegate_core::parser"
  | readingStopped .. => "routegate_core::parser"
  | malformedQuery _ => "routegate_core::service"
  | invalidOptions _ => "routegate_core::service"
  | durationSkipped => "routegate_core::service"
  | dispatched .. => "routegate_core::service"
  | requestReceived .. => "routegate_core::middleware"
  | responseSent .. => "routegate_core::middleware"
  | starting .. => "routegate"
  | stopped => "routegate"
  | _ => "routegate_core::server"

/-- An event as a line of the log; a time goes in front of it. -/
def line (event : Event) : Json :=
  .object
    [("level", .string event.level.name),
      ("fields", .object (("message", .string event.message) :: event.fields)),
      ("target", .string event.target)]

end Event

/-! ## Computations that log -/

/-- A value and the events logged on the way to it. -/
structure Logged (α : Type) where
  value : α
  events : List Event

namespace Logged

/-- Logs one event. -/
def log (event : Event) : Logged Unit := { value := (), events := [event] }

instance : Monad Logged where
  pure value := { value, events := [] }
  bind first next :=
    let second := next first.value
    { value := second.value, events := first.events ++ second.events }

variable {α β : Type}

@[simp] theorem value_pure (a : α) : (pure a : Logged α).value = a := rfl

@[simp] theorem events_pure (a : α) : (pure a : Logged α).events = [] := rfl

@[simp] theorem value_bind (first : Logged α) (next : α → Logged β) :
    (first >>= next).value = (next first.value).value := rfl

@[simp] theorem events_bind (first : Logged α) (next : α → Logged β) :
    (first >>= next).events = first.events ++ (next first.value).events := rfl

@[simp] theorem events_log (event : Event) : (log event).events = [event] := rfl

end Logged

/-! ## Panics -/

/-- A computation gave up in the middle, for this reason. -/
structure Panic where
  reason : String
  deriving DecidableEq, Repr

end RoutingGateway
