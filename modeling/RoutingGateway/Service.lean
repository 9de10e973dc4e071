/-
Answering a route query.

A query passes two checks before the engine is asked: it must be read to its
end, and its parameters must agree. A query that fails one is answered by an
error document. The engine is handed a fresh container of the wanted kind;
what it leaves in it is the answer, and a document also says how long the
engine took.
-/
import RoutingGateway.Engine

namespace RoutingGateway

/-! ## Query parsers -/

/-- A reader of query texts: the parameters, if any, and the byte offset at
which it ended. It may log and it may panic. -/
structure Parser where
  parse : String → Logged (Except Panic (Option Parameters × Nat))

namespace Query

/-- The event that goes with a reading that did not reach the end. -/
def Reading.events : Reading → List Event
  | .complete _ => []
  | .stopped _ offset error => [.readingStopped offset error]
  | .noCoordinates list => [.noCoordinates list]

/-- The reader of this library's query grammar. -/
def parser : Parser where
  parse query :=
    let reading := read query.toList
    { value := .ok (reading.parameters, reading.stop query.toList)
      events := reading.events }

end Query

/-! ## Services -/

/-- A service answers queries with one engine and one parser. -/
structure Service where
  engine : Engine
  parser : Parser := Query.parser

namespace Service

/-- The code of the answer to a query that cannot be read. -/
def invalidQuery : String := "InvalidQuery"

/-- The code of the answer to a query whose parameters do not agree. -/
def invalidOptions : String := "InvalidOptions"

/-- The field for the time the engine took. -/
def durationField : String := "durationNanos"

/-- The text of a service. -/
def describe (service : Service) : String :=
  "RouteService \x7b engine: " ++ Text.quoted service.engine.name ++ ", .. \x7d"

/-- The parameters of a parse that ended where it should. -/
def accepted? (length : Nat) : Option Parameters × Nat → Option Parameters
  | (some p, stop) => if stop = length then some p else none
  | (none, _) => none

/-- The answer to a query that cannot be read; `position` counts from the start
of the request target. -/
def refuseQuery (position : Nat) : Logged (Status × Container) := do
  Logged.log (.malformedQuery position)
  return (.error, .error invalidQuery
    ("Query string malformed close to position " ++ toString position))

/-- The answer to a query whose parameters do not agree. -/
def refuseOptions (e : OptionError) : Logged (Status × Container) := do
  Logged.log (.invalidOptions e)
  return (.error, .error invalidOptions e.message)

/-- An empty container of the wanted kind. -/
def freshContainer : OutputFormat → Container
  | .json => .newDocument
  | .flatbuffers => .newBuffer

/-- The longest time that is told, in nanoseconds. -/
def maxElapsed : Nat := UInt64.size - 1

/-- The engine's answer with the time it took. -/
def annotate (elapsed : Nat) (container : Container) : Logged Container := do
  if container.isBuffer then Logged.log .durationSkipped
  return container.insert durationField (.int elapsed)

/-- Hands checked parameters to the engine. -/
def dispatch (service : Service) (elapsed : Nat) (p : Parameters) :
    Logged (Except Panic (Status × Container)) := do
  match ← service.engine.route p (freshContainer p.outputFormat) with
  | .error panic => return .error panic
  | .ok (status, container) =>
    let elapsed := min elapsed maxElapsed
    let container ← annotate elapsed container
    Logged.log (.dispatched service.engine.name status p.coordinates.length elapsed)
    return .ok (status, container)

/-- Answers a query that stands at byte `offset` of the request target. The
engine's time is not the service's to know, so it is handed in. -/
def run (service : Service) (elapsed offset : Nat) (query : String) :
    Logged (Except Panic (Status × Container)) := do
  match ← service.parser.parse query with
  | .error panic => return .error panic
  | .ok parsed =>
    match accepted? query.utf8ByteSize parsed with
    | none => return .ok (← refuseQuery (offset + parsed.2))
    | some p =>
      match p.validate with
      | .error e => return .ok (← refuseOptions e)
      | .ok () => service.dispatch elapsed p

end Service

end RoutingGateway
