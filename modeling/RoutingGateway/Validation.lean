/-
Whether the parts of a request agree with each other.

Only the first violation is reported, and the order is fixed: first the lists
that go with the coordinates, in the order of `PerCoordinate.all`, then the
number of coordinates.
-/
import RoutingGateway.Json.Value
import RoutingGateway.Parameters

namespace RoutingGateway

/-- A violated constraint. -/
inductive OptionError where
  /-- A list has neither no entry nor one for each coordinate. -/
  | sizeMismatch (list : PerCoordinate) (size coordinates : Nat)
  | tooFewCoordinates
  deriving DecidableEq, Repr

namespace OptionError

/-- The wording of an `OptionError`. -/
def message : OptionError → String
  | sizeMismatch list size coordinates =>
    "Number of elements in " ++ list.name ++ " size " ++ toString size ++
      " does not match coordinate size " ++ toString coordinates
  | tooFewCoordinates => "Number of coordinates needs to be at least two."

/-- The parameter at fault, where there is one. -/
def parameter? : OptionError → Option String
  | sizeMismatch list _ _ => some list.name
  | tooFewCoordinates => none

/-- The name of the kind of violation, as logs show it. -/
def kind : OptionError → String
  | sizeMismatch .. => "ParameterSizeMismatch"
  | tooFewCoordinates => "TooFewCoordinates"

/-- The code of the kind of violation, as documents carry it. -/
def code : OptionError → String
  | sizeMismatch .. => "PARAMETER_SIZE_MISMATCH"
  | tooFewCoordinates => "TOO_FEW_COORDINATES"

/-- The violation as a JSON object. -/
def toJson (e : OptionError) : Json :=
  .object
    [("parameter", match e.parameter? with
        | some name => .string name
        | none => .null),
      ("message", .string e.message),
      ("code", .string e.code)]

end OptionError

/-- The first list whose size does not fit the coordinates. -/
def Parameters.mismatch? (p : Parameters) : Option PerCoordinate :=
  PerCoordinate.all.find? fun list =>
    p.count list != 0 && p.count list != p.coordinates.length

/-- Checks the parameters and reports the first violation. -/
def Parameters.validate (p : Parameters) : Except OptionError Unit :=
  match p.mismatch? with
  | some list => .error (.sizeMismatch list (p.count list) p.coordinates.length)
  | none => if p.coordinates.length < 2 then .error .tooFewCoordinates else .ok ()

end RoutingGateway
