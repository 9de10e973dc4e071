/-
The configuration of the program.

Four settings are read from the environment, in the order of `Setting.all`. A
setting that is absent, or is not text, keeps its default; the first that
cannot be read stops the program. The speed of the reference engine has to be
positive, so that engine never divides by zero.
-/
import RoutingGateway.Decimal.Binary64
import RoutingGateway.Decimal.Layout
import RoutingGateway.GreatCircle
import RoutingGateway.Server
import RoutingGateway.Text.Quoted

namespace RoutingGateway

open RoutingGateway.Decimal RoutingGateway.Network RoutingGateway.Text

/-! ## The environment -/

/-- The environment of the program: the bytes of each variable that is set. -/
structure Environment where
  bytes? : String → Option (List UInt8)

/-- The text of a variable, where it is set to one. -/
def Environment.text? (environment : Environment) (name : String) : Option String :=
  (environment.bytes? name).bind ofUtf8?

/-- The bytes behind the equals sign, where the entry is one of this variable. -/
def Environment.valueOf? (name : String) (entry : List UInt8) : Option (List UInt8) :=
  let key := utf8 name ++ ['='.toUInt8]
  if key.isPrefixOf entry then some (entry.drop key.length) else none

/-- The environment that a system keeps as a block of bytes: entries that are a
name, an equals sign and a value, with a zero byte behind each. The first entry
of a variable counts. -/
def Environment.ofBlock (block : List UInt8) : Environment where
  bytes? name := (block.splitOn 0).findSome? (valueOf? name)

/-- A setting of the program. -/
inductive Setting where
  | address
  | maxQueryLength
  | shutdownTimeout
  | speed
  deriving DecidableEq, Repr

namespace Setting

/-- The settings in the order in which they are read. -/
def all : List Setting := [address, maxQueryLength, shutdownTimeout, speed]

/-- The variable that holds a setting. -/
def key : Setting → String
  | address => "ROUTEGATE_ADDR"
  | maxQueryLength => "ROUTEGATE_MAX_QUERY_LENGTH"
  | shutdownTimeout => "ROUTEGATE_SHUTDOWN_TIMEOUT_SECS"
  | speed => "ROUTEGATE_SPEED_MPS"

end Setting

/-! ## Faults -/

/-- Why the text of a setting cannot be read. -/
inductive ValueFault where
  | notAnAddress
  | notWhole (error : WholeError)
  | emptyNumber
  | notANumber
  deriving DecidableEq, Repr

/-- The wording of a `ValueFault`. -/
def ValueFault.message : ValueFault → String
  | .notAnAddress => "invalid socket address syntax"
  | .notWhole error => error.message
  | .emptyNumber => "cannot parse float from empty string"
  | .notANumber => "invalid float literal"

/-- Why the program cannot be configured. -/
inductive ConfigurationError where
  | unreadable (setting : Setting) (value : String) (fault : ValueFault)
  | speedNotPositive (speed : Float)
  deriving Repr

namespace ConfigurationError

/-- The wording of a `ConfigurationError`. -/
def message : ConfigurationError → String
  | unreadable setting value _ => "invalid value for " ++ setting.key ++ ": " ++ quoted value
  | speedNotPositive speed => "ROUTEGATE_SPEED_MPS must be positive, got " ++ plain speed

/-- The fault underneath, where there is one. -/
def source? : ConfigurationError → Option String
  | unreadable _ _ fault => some fault.message
  | speedNotPositive _ => none

end ConfigurationError

/-! ## Reading -/

/-- The greatest whole number a setting may have. -/
def maxSetting : Nat := UInt64.size - 1

/-- Reads a socket address. -/
def readAddress (text : List Char) : Except ValueFault SocketAddress :=
  match SocketAddress.read? text with
  | some address => .ok address
  | none => .error .notAnAddress

/-- Reads a whole number. -/
def readCount (text : List Char) : Except ValueFault Nat :=
  (readWhole maxSetting text).mapError .notWhole

/-- Reads a number. -/
def readNumber (text : List Char) : Except ValueFault Float :=
  match text, readFloat? text with
  | [], _ => .error .emptyNumber
  | _, some number => .ok number
  | _, none => .error .notANumber

/-- The value of a setting, or its default. -/
def Environment.setting {α : Type} (environment : Environment) (setting : Setting)
    (read : List Char → Except ValueFault α) (default : α) : Except ConfigurationError α :=
  match environment.text? setting.key with
  | none => .ok default
  | some text => (read text.toList).mapError (.unreadable setting text)

/-- The configuration of the program. -/
structure Configuration where
  server : ServerConfig
  /-- The speed of the reference engine, in meters a second. -/
  speed : Float
  deriving Repr

/-- The configuration where nothing is set. -/
def Configuration.standard : Configuration where
  server := {}
  speed := ({} : GreatCircle).speed

/-- Reads the configuration. -/
def Configuration.load (environment : Environment) : Except ConfigurationError Configuration := do
  let standard : ServerConfig := {}
  let engine : GreatCircle := {}
  let address ← environment.setting .address readAddress standard.address
  let maxQueryLength ←
    environment.setting .maxQueryLength readCount standard.maxQueryLength
  let shutdownSeconds ←
    environment.setting .shutdownTimeout readCount standard.shutdownSeconds
  let speed ← environment.setting .speed readNumber engine.speed
  if 0 < speed then
    return { server := { standard with address, maxQueryLength, shutdownSeconds }, speed }
  else throw (.speedNotPositive speed)

end RoutingGateway
