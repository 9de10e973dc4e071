/-
Starting the program.

The program reads its configuration, says that it starts, and sets up its
listener. Where the configuration or the listener fails, it ends with a
report and the exit code one.
-/
import RoutingGateway.Configuration
import RoutingGateway.LogFilter

namespace RoutingGateway

open RoutingGateway.Text

/-! ## Ending early -/

/-- How the program ends before it serves. -/
structure Ending where
  exitCode : Nat
  /-- What it reports on standard error. -/
  report : String
  deriving DecidableEq, Repr

/-- The report of an error, and of the one underneath. -/
def errorReport (message : String) (source? : Option String) : String :=
  "Error: " ++ message ++
    match source? with
    | none => "\n"
    | some source => "\n\nCaused by:\n    " ++ source ++ "\n"

/-- The end for a configuration that cannot be read. -/
def ConfigurationError.ending (error : ConfigurationError) : Ending :=
  { exitCode := 1, report := errorReport error.message error.source? }

/-- The end for a fault of the gateway. -/
def GatewayError.ending (error : GatewayError) : Ending :=
  { exitCode := 1, report := errorReport error.message error.source? }

/-! ## Starting -/

/-- The version that the program names. -/
def version : String := "0.1.0"

/-- The variable that holds the log filter. -/
def filterVariable : String := "RUST_LOG"

/-- The program when it has been configured. -/
structure Startup where
  configuration : Configuration
  filter : LogFilter

namespace Startup

/-- Configures the program. -/
def ofEnvironment (environment : Environment) : Except Ending Startup := do
  let configuration ← (Configuration.load environment).mapError ConfigurationError.ending
  return { configuration, filter := .ofSetting (environment.text? filterVariable) }

/-- The events up to the setting up of the listener. -/
def events (startup : Startup) : List Event := [.starting version startup.configuration.speed]

/-- The end where the listener cannot be set up. -/
def listenerFailed (startup : Startup) (source : String) : Ending :=
  (GatewayError.bind startup.configuration.server.address.text source).ending

/-- The profile of the reference engine. -/
def profile : String := "driving"

/-- The server that the program runs: the reference engine under its profile,
with logging and sharing across origins. -/
def server (startup : Startup) : Server where
  config := startup.configuration.server
  router :=
    { Router.new with
      services :=
        [(profile, { engine := GreatCircle.toEngine { speed := startup.configuration.speed } })] }
  middlewares := [.logging, .cors]

end Startup

end RoutingGateway
