/-
The pairs of a query: a key, an equals sign and a value.

A pair is read as a unit on top of the parameters that the pairs before it
have set. It is rejected without an equals sign, for an unknown key, for a
key that was given before, or for a value outside the grammar of its key,
and then it changes nothing.
-/
import RoutingGateway.Query.Value
import RoutingGateway.Text.Quoted

namespace RoutingGateway.Query

open RoutingGateway.Text

/-! ## Keys -/

/-- The keys a query may hold. -/
inductive Key where
  | coordinates
  | hints
  | bearings
  | radiuses
  | approaches
  | format
  | steps
  | alternatives
  | overview
  | geometries
  | exclude
  | generateHints
  deriving DecidableEq, Repr

/-- The spelling of a key. -/
def Key.name : Key → String
  | .coordinates => "coordinates"
  | .hints => "hints"
  | .bearings => "bearings"
  | .radiuses => "radiuses"
  | .approaches => "approaches"
  | .format => "format"
  | .steps => "steps"
  | .alternatives => "alternatives"
  | .overview => "overview"
  | .geometries => "geometries"
  | .exclude => "exclude"
  | .generateHints => "generate_hints"

/-- All keys. -/
def Key.all : List Key :=
  [.coordinates, .hints, .bearings, .radiuses, .approaches, .format, .steps, .alternatives,
    .overview, .geometries, .exclude, .generateHints]

/-- The key with this spelling. -/
def Key.ofName? (name : List Char) : Option Key :=
  Key.all.find? fun key => key.name.toList = name

/-! ## Rejected pairs -/

/-- Why a pair is rejected. -/
inductive PairError where
  | unknownKey (name : String)
  | duplicateKey (key : Key)
  /-- The value of the named key is malformed, or the named text is no pair. -/
  | malformedValue (name : String)
  deriving DecidableEq, Repr

/-- The wording of a `PairError`. -/
def PairError.message : PairError → String
  | .unknownKey name => "unknown parameter " ++ quoted name
  | .duplicateKey key => "parameter " ++ quoted key.name ++ " given more than once"
  | .malformedValue name => "malformed value for " ++ quoted name

/-! ## Reading a pair -/

/-- Sets the parameter of a key from the text of its value. The coordinates
are no option and cannot be set. -/
def Key.set? (key : Key) (value : List Char) (p : Parameters) : Option Parameters :=
  match key with
  | .coordinates => none
  | .hints => (slots? hint? value).map fun hints => { p with hints }
  | .bearings => (slots? bearing? value).map fun bearings => { p with bearings }
  | .radiuses => (slots? radius? value).map fun radiuses => { p with radiuses }
  | .approaches =>
    (slots? (fun text => Approach.ofKeyword? (String.ofList text)) value).map
      fun approaches => { p with approaches }
  | .format =>
    (OutputFormat.ofKeyword? (String.ofList value)).map fun format =>
      { p with format := some format }
  | .steps => (flag? value).map fun steps => { p with steps }
  | .alternatives => (flag? value).map fun alternatives => { p with alternatives }
  | .overview =>
    (Overview.ofKeyword? (String.ofList value)).map fun overview => { p with overview }
  | .geometries =>
    (Geometries.ofKeyword? (String.ofList value)).map fun geometries => { p with geometries }
  | .exclude => (roadClasses? value).map fun exclude => { p with exclude }
  | .generateHints => (flag? value).map fun generateHints => { p with generateHints }

/-- Reads a pair on top of the parameters so far; `seen` are the keys given
before it. -/
def readPair (seen : List Key) (p : Parameters) (pair : List Char) :
    Except PairError (Key × Parameters) :=
  match cut '=' pair with
  | none => .error (.malformedValue (String.ofList pair))
  | some (name, value) =>
    match Key.ofName? name with
    | none => .error (.unknownKey (String.ofList name))
    | some key =>
      if key ∈ seen then .error (.duplicateKey key)
      else
        match key.set? value p with
        | none => .error (.malformedValue key.name)
        | some p => .ok (key, p)

end RoutingGateway.Query
