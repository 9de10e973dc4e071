/-
Reading a route query.

A query has one of two layouts. In the keyed one everything is a pair,
`coordinates=1,1;2,2&steps=true`; in the bare one the coordinate list
stands by itself, `1,1;2,2?steps=true`. The coordinates come first in
both, and the pairs after them stand between ampersands.

Without a good coordinate list nothing is read. The first rejected pair stops
the reading at the separator in front of it; what the pairs before it have
set is kept.
-/
import RoutingGateway.Query.Pair

namespace RoutingGateway.Query

open RoutingGateway.Text

/-! ## What a reading yields -/

/-- The outcome of reading a query. -/
inductive Reading where
  /-- All of the query was read. -/
  | complete (p : Parameters)
  /-- A pair was rejected; the separator in front of it is at `offset`. -/
  | stopped (p : Parameters) (offset : Nat) (error : PairError)
  /-- The query does not begin with coordinates; `list` stands in their place. -/
  | noCoordinates (list : String)
  deriving Repr

/-- The parameters that were read. -/
def Reading.parameters : Reading → Option Parameters
  | .complete p => some p
  | .stopped p _ _ => some p
  | .noCoordinates _ => none

/-- The byte offset at which a reading of `query` ended. -/
def Reading.stop (query : List Char) : Reading → Nat
  | .complete _ => width query
  | .stopped _ offset _ => offset
  | .noCoordinates _ => 0

/-! ## Layouts -/

/-- The two layouts of a query. -/
inductive Layout where
  | keyed
  | bare
  deriving DecidableEq, Repr

/-- What the query begins with. -/
def Layout.opening : Layout → List Char
  | .keyed => "coordinates=".toList
  | .bare => []

/-- The separator between the coordinate list and the first pair. -/
def Layout.separator : Layout → Char
  | .keyed => '&'
  | .bare => '?'

/-- The layout of a query and the text after its opening. -/
def layoutOf (query : List Char) : Layout × List Char :=
  match dropStart? Layout.keyed.opening query with
  | some rest => (.keyed, rest)
  | none => (.bare, query)

/-! ## Reading -/

/-- Reads located pairs one after the other. -/
def readPairs (seen : List Key) (p : Parameters) : List (Nat × List Char) → Reading
  | [] => .complete p
  | (offset, pair) :: rest =>
    match readPair seen p pair with
    | .ok (key, p) => readPairs (key :: seen) p rest
    | .error error => .stopped p (offset - 1) error

/-- Reads a query of which the list of coordinates, at byte `start`, and the
text of the options have been told apart. -/
def readParts (start : Nat) (list : List Char) (options : Option (List Char)) : Reading :=
  match coordinates? list with
  | none => .noCoordinates (String.ofList list)
  | some coordinates =>
    match options with
    | none => .complete { coordinates }
    | some text =>
      readPairs [.coordinates] { coordinates }
        (located (start + width list + 1) (text.splitOn '&'))

/-- Reads a query. -/
def read (query : List Char) : Reading :=
  let (layout, rest) := layoutOf query
  match cut layout.separator rest with
  | some (list, options) => readParts (width layout.opening) list (some options)
  | none => readParts (width layout.opening) rest none

end RoutingGateway.Query
