/-
The gateway as a program.

It reads its configuration from the environment, opens a listener and
answers requests until it is interrupted. Then it accepts no more, gives the
requests that are being answered time to finish, and ends. The log goes to
standard output, one JSON object a line.
-/
import RoutingGateway.Http.Message
import RoutingGateway.Launch
import Std.Async.Signal
import Std.Async.TCP
import Std.Async.Timer
import Std.Time

namespace RoutingGateway.Program

open RoutingGateway.Http RoutingGateway.Network
open Std.Async Std.Async.TCP

/-! ## Surroundings -/

/-- The environment of the process, in the bytes that the system keeps. On a system
that shows no such block, only the variables that are text can be told. -/
def environment : IO Environment := do
  match ← (IO.FS.readBinFile "/proc/self/environ").toBaseIO with
  | .ok block => return .ofBlock block.toList
  | .error _ =>
    let names := filterVariable :: Setting.all.map Setting.key
    let found ← names.filterMapM fun name => do
      return (← IO.getEnv name).map fun value => (name, Text.utf8 value)
    return { bytes? := fun name => (found.find? fun e => e.1 = name).map Prod.snd }

/-- The time since the epoch, in nanoseconds. -/
def now : IO Nat := do
  return (← Std.Time.Timestamp.now).toNanosecondsSinceUnixEpoch.val.toNat

/-- The date and the time of day, without an offset. -/
def today : IO Std.Time.DateTime := do
  return .ofTimestampWithZone (← Std.Time.Timestamp.now) .UTC

/-- The time as the log shows it. -/
def logTime : IO String := do
  let time ← today
  return time.format "uuuu-MM-dd" ++ "T" ++ time.format "HH:mm:ss.SSSSSS" ++ "Z"

/-- The time as a response shows it. -/
def httpTime : IO String := do
  return (← today).format "EEE, dd MMM uuuu HH:mm:ss" ++ " GMT"

/-- Writes the lines of the log for some events. -/
def writeLog (filter : LogFilter) (events : List Event) : IO Unit := do
  let output ← IO.getStdout
  for line in filter.lines events do
    let time ← logTime
    let fields := match line with
      | .object fields => fields
      | _ => []
    output.putStrLn (Json.render (.object (("timestamp", .string time) :: fields)))
  output.flush

/-- The address as the network knows it. -/
def netAddress : SocketAddress → Std.Net.SocketAddress
  | .v4 ip port => .v4 { addr := ⟨ip.octets⟩, port }
  | .v6 ip _ port => .v6 { addr := ⟨ip.groups⟩, port }

/-- The address that the network tells. -/
def ofNetAddress : Std.Net.SocketAddress → SocketAddress
  | .v4 a => .v4 ⟨a.addr.octets⟩ a.port
  | .v6 a => .v6 ⟨a.addr.segments⟩ 0 a.port

/-! ## Connections -/

/-- A program that serves. -/
structure State where
  server : Server
  filter : LogFilter
  /-- The number of the next request. -/
  requests : IO.Ref Nat
  /-- The number of requests that are being answered. -/
  pending : IO.Ref Nat
  /-- Whether the program was told to stop. -/
  stopping : IO.Ref Bool

/-- Answers a request. The time that the answer tells is that of a first run, which
tells none. -/
def answer (state : State) (arrival : Arrival) : IO WireResponse := do
  let number ← state.requests.modifyGet fun n => (n, n + 1)
  let start ← now
  let run (elapsed : Nat) : IO (Logged WireResponse) :=
    IO.lazyPure fun _ => state.server.handle
      { requestId := RequestId.generate start number, elapsed, task := toString number } arrival
  let _ ← run 0
  let run ← run ((← now) - start)
  writeLog state.filter run.events
  return run.value

/-- Sends a response. -/
def reply (client : Socket.Client) (response : WireResponse) (withBody keepAlive : Bool) :
    Async Unit := do
  let message := response.message withBody keepAlive (← httpTime)
  client.send message.toByteArray

/-- Takes bytes off the connection until `count` are there, or it ends. -/
partial def skip (client : Socket.Client) (count : Nat) (bytes : List UInt8) :
    Async (List UInt8) := do
  if count ≤ bytes.length then return bytes.drop count
  match ← client.recv? 65536 with
  | none => return []
  | some more => skip client (count - bytes.length) more.toList

/-- Answers the requests of a connection; `bytes` are those that have been read. -/
partial def converse (state : State) (client : Socket.Client) (host : String)
    (bytes : List UInt8) : Async Unit := do
  match Head.split? [] bytes with
  | none =>
    if Head.maxLength < bytes.length then reply client .oversized true false
    else
      match ← client.recv? 65536 with
      | none => return
      | some more => converse state client host (bytes ++ more.toList)
  | some (head, rest) =>
    match Head.read? head with
    | none => reply client .malformed true false
    | some head =>
      let arrival := head.arrival host
      let keepAlive := head.keepAlive && state.server.config.keepAlive &&
        head.bodyLength.isSome && !(← state.stopping.get)
      state.pending.modify (· + 1)
      try reply client (← answer state arrival) (!arrival.isHead) keepAlive
      finally state.pending.modify (· - 1)
      if keepAlive then
        converse state client host (← skip client (head.bodyLength.getD 0) rest)

/-- Serves a connection to its end. -/
def serveConnection (state : State) (client : Socket.Client) : Async Unit := do
  let address := ofNetAddress (← client.getPeerName)
  try
    converse state client address.host []
    client.shutdown
  catch e =>
    writeLog state.filter [.connectionFailed address.text (toString e)]

/-! ## Serving -/

/-- Accepts connections until the program is interrupted. -/
partial def acceptAll (state : State) (listener : Socket.Server) (signal : Signal.Waiter) :
    Async Unit := do
  let client? ← Selectable.one #[
    .case listener.acceptSelector fun client => pure (some client),
    .case signal.selector fun _ => pure none]
  match client? with
  | none => return
  | some client =>
    background (serveConnection state client)
    acceptAll state listener signal

/-- Waits for the requests that are being answered, for some tenths of a second at
most. -/
partial def drain (state : State) (tenths : Nat) : Async Event := do
  if (← state.pending.get) = 0 then return .drained
  if tenths = 0 then return .drainTimedOut
  sleep 100
  drain state (tenths - 1)

/-- Why a listener cannot be opened, in the words of the operating system. An
error number may come with its sign turned. -/
def systemReason (code : UInt32) (details : String) : String :=
  let number := if code.toNat < 0x80000000 then code.toNat else UInt32.size - code.toNat
  let words := match number with
    | 13 => "Permission denied"
    | 98 => "Address already in use"
    | 99 => "Cannot assign requested address"
    | _ => details
  words ++ " (os error " ++ toString number ++ ")"

/-- Why a listener cannot be opened. -/
def reasonOf : IO.Error → String
  | .unsupportedOperation code details => systemReason code details
  | .resourceBusy code details => systemReason code details
  | .permissionDenied _ code details => systemReason code details
  | .otherError code details => systemReason code details
  | e => toString e

/-- Opens the listener of an address. -/
def openListener (address : SocketAddress) : IO Socket.Server := do
  let listener ← Socket.Server.mk
  listener.bind (netAddress address)
  listener.listen 1024
  return listener

/-- Serves until the program is interrupted. -/
def serve (startup : Startup) (listener : Socket.Server) : Async Unit := do
  let state : State :=
    { server := startup.server, filter := startup.filter, requests := ← IO.mkRef 1
      pending := ← IO.mkRef 0, stopping := ← IO.mkRef false }
  let config := state.server.config
  writeLog state.filter [.listening config.address.text state.server.router.profiles]
  let signal ← Signal.Waiter.mk .sigint false
  acceptAll state listener signal
  state.stopping.set true
  writeLog state.filter [.stopping]
  writeLog state.filter [← drain state (10 * config.shutdownSeconds), .stopped]

/-- Ends the program early. -/
def finish (ending : Ending) : IO UInt32 := do
  (← IO.getStderr).putStr ending.report
  return ending.exitCode.toUInt32

/-- Runs the program. -/
def run : IO UInt32 := do
  match Startup.ofEnvironment (← environment) with
  | .error ending => finish ending
  | .ok startup =>
    writeLog startup.filter startup.events
    match ← (openListener startup.configuration.server.address).toBaseIO with
    | .error e => finish (startup.listenerFailed (reasonOf e))
    | .ok listener =>
      (serve startup listener).block
      return 0

end RoutingGateway.Program

/-- Runs the gateway. -/
def main : IO UInt32 := RoutingGateway.Program.run
