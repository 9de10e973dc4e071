/-
The grammar of route queries.

What a query may say is written down here without the reader: a relation for
each kind of value between a text and what it means (`CoordinateText`,
`HintText`, `BearingText`, …), a `Setting` for each key with a value, and a
`Sentence` for a whole query. A sentence is a layout, a list of coordinates
and settings of which no two have the same key; its `parameters` are the
default parameters with the coordinates and every setting put in, and
`Sentence.Spells` relates it to the texts that say it.

A pair that cannot go on a sentence is rejected for one of four reasons,
and `Rejected` says which pair is rejected for which.
-/
import RoutingGateway.Proofs.Decimal.Numeral
import RoutingGateway.Proofs.Text.Separated
import RoutingGateway.Query.Reading

namespace RoutingGateway.Query

open RoutingGateway.Decimal RoutingGateway.Text

/-! ## Single values -/

/-- The text reads as a double, and that is finite. -/
def FiniteText (text : List Char) (x : Float) : Prop :=
  readFloat? text = some x ∧ x.isFinite = true

/-- A longitude of at most 180 and a latitude of at most 90 degrees to either
side, with a comma between. -/
inductive CoordinateText : List Char → Coordinate → Prop
  | intro {lon lat : List Char} {c : Coordinate} : FiniteText lon c.lon → FiniteText lat c.lat →
      -180.0 ≤ c.lon → c.lon ≤ 180.0 → -90.0 ≤ c.lat → c.lat ≤ 90.0 →
      CoordinateText (lon ++ ',' :: lat) c

/-- A list of coordinates: `lon,lat` between semicolons. -/
def CoordinatesText : List Char → List Coordinate → Prop := Separated ';' CoordinateText

/-- A hint is its own text: letters, digits, `_`, `=` and `-`, at least one. -/
def HintText (text : List Char) (hint : String) : Prop :=
  text ≠ [] ∧ (∀ c ∈ text, c.isAlphanum = true ∨ c = '_' ∨ c = '=' ∨ c = '-') ∧
    hint = String.ofList text

/-- Two whole numbers, of at most 360 and 180, with a comma between. -/
inductive BearingText : List Char → Bearing → Prop
  | intro {direction deviation : List Char} {b : Bearing} : WholeText direction b.direction →
      WholeText deviation b.deviation → b.direction ≤ 360 → b.deviation ≤ 180 →
      BearingText (direction ++ ',' :: deviation) b

/-- The word `unlimited`, or a finite number that is not negative. -/
inductive RadiusText : List Char → Radius → Prop
  | unlimited : RadiusText "unlimited".toList .unlimited
  | meters {text : List Char} {x : Float} : FiniteText text x → 0.0 ≤ x →
      RadiusText text (.meters x)

/-- The name of a road class: small letters and `_`, at least one. -/
def ClassText (text : List Char) (name : String) : Prop :=
  text ≠ [] ∧ (∀ c ∈ text, c.isLower = true ∨ c = '_') ∧ name = String.ofList text

/-- The word for a switch. -/
def flagWord : Bool → String
  | true => "true"
  | false => "false"

/-- An entry of a list that goes with the coordinates: nothing, which leaves it
open, or an item. -/
inductive EntryText {α : Type} (Item : List Char → α → Prop) : List Char → Option α → Prop
  | left : EntryText Item [] none
  | given {text : List Char} {value : α} : Item text value → EntryText Item text (some value)

/-- Entries between semicolons. -/
def EntriesText {α : Type} (Item : List Char → α → Prop) : List Char → List (Option α) → Prop :=
  Separated ';' (EntryText Item)

/-! ## Settings -/

/-- A key that may be given behind the coordinates, with its value. -/
inductive Setting where
  | hints (entries : List (Option String))
  | bearings (entries : List (Option Bearing))
  | radiuses (entries : List (Option Radius))
  | approaches (entries : List (Option Approach))
  | format (value : OutputFormat)
  | steps (value : Bool)
  | alternatives (value : Bool)
  | overview (value : Overview)
  | geometries (value : Geometries)
  | exclude (classes : List String)
  | generateHints (value : Bool)

namespace Setting

/-- The key of a setting. None has the coordinates for its key. -/
def key : Setting → Key
  | hints _ => .hints
  | bearings _ => .bearings
  | radiuses _ => .radiuses
  | approaches _ => .approaches
  | format _ => .format
  | steps _ => .steps
  | alternatives _ => .alternatives
  | overview _ => .overview
  | geometries _ => .geometries
  | exclude _ => .exclude
  | generateHints _ => .generateHints

/-- Puts the value of a setting in the place of its parameter. -/
def put : Setting → Parameters → Parameters
  | hints entries, p => { p with hints := entries }
  | bearings entries, p => { p with bearings := entries }
  | radiuses entries, p => { p with radiuses := entries }
  | approaches entries, p => { p with approaches := entries }
  | format value, p => { p with format := some value }
  | steps value, p => { p with steps := value }
  | alternatives value, p => { p with alternatives := value }
  | overview value, p => { p with overview := value }
  | geometries value, p => { p with geometries := value }
  | exclude classes, p => { p with exclude := classes }
  | generateHints value, p => { p with generateHints := value }

/-- The texts of the value of a setting. -/
def ValueText : Setting → List Char → Prop
  | hints entries, text => EntriesText HintText text entries
  | bearings entries, text => EntriesText BearingText text entries
  | radiuses entries, text => EntriesText RadiusText text entries
  | approaches entries, text => EntriesText (fun word a => word = a.keyword.toList) text entries
  | format value, text => text = value.keyword.toList
  | steps value, text => text = (flagWord value).toList
  | alternatives value, text => text = (flagWord value).toList
  | overview value, text => text = value.keyword.toList
  | geometries value, text => text = value.keyword.toList
  | exclude classes, text => Separated ',' ClassText text classes
  | generateHints value, text => text = (flagWord value).toList

end Setting

/-- The texts of a setting: its key, an equals sign and its value. -/
inductive PairText : List Char → Setting → Prop
  | intro {s : Setting} {value : List Char} : s.ValueText value →
      PairText (s.key.name.toList ++ '=' :: value) s

/-! ## Sentences -/

/-- What a query says. -/
structure Sentence where
  layout : Layout
  coordinates : List Coordinate
  /-- The settings in the order in which they are given. -/
  settings : List Setting
  /-- No key is given twice. -/
  distinct : (settings.map Setting.key).Nodup

namespace Sentence

/-- The keys that are given. -/
def keys (s : Sentence) : List Key := s.settings.map Setting.key

/-- The parameters a sentence stands for: the defaults with the coordinates and
every setting put in. -/
def parameters (s : Sentence) : Parameters :=
  s.settings.foldl (fun p setting => setting.put p) { coordinates := s.coordinates }

/-- The texts of a sentence. Without settings the text ends behind the coordinates,
and there is no separator. -/
inductive Spells (s : Sentence) : List Char → Prop
  | alone {list : List Char} : CoordinatesText list s.coordinates → s.settings = [] →
      Spells s (s.layout.opening ++ list)
  | withOptions {list options : List Char} : CoordinatesText list s.coordinates →
      Separated '&' PairText options s.settings →
      Spells s (s.layout.opening ++ (list ++ s.layout.separator :: options))

/-- What stands between a sentence and a further pair: the question mark that ends
a bare list of coordinates, and an ampersand everywhere else. -/
def nextSeparator (s : Sentence) : Char :=
  if s.layout = .bare ∧ s.settings = [] then '?' else '&'

end Sentence

/-! ## Places in a query -/

/-- The text in the place of the coordinates: behind a leading `coordinates=` it
goes up to the first ampersand, otherwise up to the first question mark. -/
def coordinateText (query : List Char) : List Char :=
  if "coordinates=".toList.isPrefixOf query then
    (query.drop "coordinates=".toList.length).takeWhile (· ≠ '&')
  else query.takeWhile (· ≠ '?')

/-- What may follow a pair: nothing, or an ampersand. -/
def EndsPair (tail : List Char) : Prop := ∀ c ∈ tail.head?, c = '&'

/-! ## Rejected pairs -/

/-- The pair is rejected behind settings with the given keys, for this reason. The
reasons come in an order, and a later one only applies where no earlier one
does. -/
inductive Rejected (given : List Key) : List Char → PairError → Prop
  /-- Without an equals sign it is no pair. -/
  | noEquals {text : List Char} : '=' ∉ text →
      Rejected given text (.malformedValue (String.ofList text))
  | unknownKey {name value : List Char} : '=' ∉ name → (∀ key : Key, name ≠ key.name.toList) →
      Rejected given (name ++ '=' :: value) (.unknownKey (String.ofList name))
  | givenBefore {key : Key} {value : List Char} : key = .coordinates ∨ key ∈ given →
      Rejected given (key.name.toList ++ '=' :: value) (.duplicateKey key)
  | malformedValue {key : Key} {value : List Char} : key ≠ .coordinates → key ∉ given →
      (∀ s : Setting, s.key = key → ¬ s.ValueText value) →
      Rejected given (key.name.toList ++ '=' :: value) (.malformedValue key.name)

/-- The query goes on behind the text `head` of a sentence with a pair `bad` that is
rejected there, and whatever the `tail` is. -/
structure FirstRejected (query : List Char) (s : Sentence) (head bad tail : List Char)
    (e : PairError) : Prop where
  text : query = head ++ s.nextSeparator :: (bad ++ tail)
  spells : s.Spells head
  pair : '&' ∉ bad
  ends : EndsPair tail
  rejected : Rejected s.keys bad e

end RoutingGateway.Query
