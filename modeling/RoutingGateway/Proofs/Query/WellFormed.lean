/-
What parameters that were read are like.

`Parameters.WellFormed` says it field by field: at least one coordinate, all of
them in range, and no hint, bearing, radius or road class that a query could
not spell. It says nothing of the lengths of the lists, which reading does not
compare.

A sentence is well formed because its coordinates are and because putting a
setting in keeps it so (`wellFormed_put`). Every reading that yields parameters
yields those of a sentence, the one that stopped on the way as well, so all of
them are well formed (`wellFormed_of_parse`).
-/
import RoutingGateway.Proofs.Query.Parser

namespace RoutingGateway

/-! ## Values that can be said -/

/-- Both components are finite, and inside their ranges. -/
structure Coordinate.InRange (c : Coordinate) : Prop where
  lon_finite : c.lon.isFinite = true
  lat_finite : c.lat.isFinite = true
  west : -180.0 ≤ c.lon
  east : c.lon ≤ 180.0
  south : -90.0 ≤ c.lat
  north : c.lat ≤ 90.0

/-- A hint is not empty, and holds letters, digits, `_`, `=` and `-` only. -/
def HintAllowed (hint : String) : Prop :=
  hint ≠ "" ∧ ∀ c ∈ hint.toList, c.isAlphanum = true ∨ c = '_' ∨ c = '=' ∨ c = '-'

/-- A direction of at most 360 and a deviation of at most 180 degrees. -/
def BearingAllowed (b : Bearing) : Prop := b.direction ≤ 360 ∧ b.deviation ≤ 180

/-- A radius is unlimited, or finite and not negative. -/
def RadiusAllowed : Radius → Prop
  | .unlimited => True
  | .meters x => x.isFinite = true ∧ 0.0 ≤ x

/-- A road class is not empty, and holds small letters and `_` only. -/
def ClassAllowed (name : String) : Prop :=
  name ≠ "" ∧ ∀ c ∈ name.toList, c.isLower = true ∨ c = '_'

/-- There are coordinates, and every value that is given is one that can be said. Entries
that are left open are free, and so are the lengths of the lists. -/
structure Parameters.WellFormed (p : Parameters) : Prop where
  coordinates_ne_nil : p.coordinates ≠ []
  coordinates : ∀ c ∈ p.coordinates, c.InRange
  hints : ∀ hint, some hint ∈ p.hints → HintAllowed hint
  bearings : ∀ b, some b ∈ p.bearings → BearingAllowed b
  radiuses : ∀ r, some r ∈ p.radiuses → RadiusAllowed r
  exclude : ∀ name ∈ p.exclude, ClassAllowed name

namespace Query

open RoutingGateway.Text

/-! ## From texts to values -/

theorem CoordinateText.inRange {text : List Char} {c : Coordinate} (h : CoordinateText text c) :
    c.InRange := by
  obtain ⟨hlon, hlat, west, east, south, north⟩ := h
  exact ⟨hlon.2, hlat.2, west, east, south, north⟩

theorem HintText.allowed {text : List Char} {hint : String} (h : HintText text hint) :
    HintAllowed hint := by
  obtain ⟨hne, hall, rfl⟩ := h
  refine ⟨fun hempty => hne ?_, ?_⟩
  · rw [ofList_eq_iff.mp hempty]
    rfl
  · rw [String.toList_ofList]
    exact hall

theorem BearingText.allowed {text : List Char} {b : Bearing} (h : BearingText text b) :
    BearingAllowed b := by
  obtain ⟨-, -, hdirection, hdeviation⟩ := h
  exact ⟨hdirection, hdeviation⟩

theorem RadiusText.allowed {text : List Char} {r : Radius} (h : RadiusText text r) :
    RadiusAllowed r := by
  cases h with
  | unlimited => trivial
  | meters hfinite hpositive => exact ⟨hfinite.2, hpositive⟩

theorem ClassText.allowed {text : List Char} {name : String} (h : ClassText text name) :
    ClassAllowed name := by
  obtain ⟨hne, hall, rfl⟩ := h
  refine ⟨fun hempty => hne ?_, ?_⟩
  · rw [ofList_eq_iff.mp hempty]
    rfl
  · rw [String.toList_ofList]
    exact hall

section Lists

variable {α : Type} {Item : List Char → α → Prop} {P : α → Prop} {sep : Char} {text : List Char}

/-- What holds of every value that has a text holds of the values of a separated text. -/
theorem Separated.forall_values {values : List α} (h : Separated sep Item text values)
    (hP : ∀ piece value, Item piece value → P value) : ∀ value ∈ values, P value := by
  obtain ⟨pieces, -, -, hall⟩ := h
  induction hall with
  | nil => simp
  | cons hitem _ ih => exact List.forall_mem_cons.mpr ⟨hP _ _ hitem, ih⟩

/-- What holds of every item that has a text holds of the entries that are given. -/
theorem EntriesText.forall_given {entries : List (Option α)} (h : EntriesText Item text entries)
    (hP : ∀ piece value, Item piece value → P value) : ∀ value, some value ∈ entries → P value := by
  have hgiven : ∀ entry ∈ entries, ∀ value, entry = some value → P value := by
    refine Separated.forall_values h fun piece entry hentry value hvalue => ?_
    cases hentry with
    | left => cases hvalue
    | given hitem => exact Option.some.inj hvalue ▸ hP _ _ hitem
  exact fun value hvalue => hgiven _ hvalue value rfl

end Lists

/-! ## Sentences -/

/-- A setting that can be written keeps parameters well formed. -/
theorem wellFormed_put {s : Setting} {value : List Char} (hvalue : s.ValueText value)
    {p : Parameters} (h : p.WellFormed) : (s.put p).WellFormed := by
  cases s with
  | hints entries =>
    exact { h with hints := EntriesText.forall_given hvalue fun _ _ => HintText.allowed }
  | bearings entries =>
    exact { h with bearings := EntriesText.forall_given hvalue fun _ _ => BearingText.allowed }
  | radiuses entries =>
    exact { h with radiuses := EntriesText.forall_given hvalue fun _ _ => RadiusText.allowed }
  | exclude classes =>
    exact { h with exclude := Separated.forall_values hvalue fun _ _ => ClassText.allowed }
  | approaches _ => exact { h with }
  | format _ => exact { h with }
  | steps _ => exact { h with }
  | alternatives _ => exact { h with }
  | overview _ => exact { h with }
  | geometries _ => exact { h with }
  | generateHints _ => exact { h with }

/-- So do settings one after the other. -/
theorem wellFormed_foldl_put {pairs : List (List Char)} {settings : List Setting}
    (hall : List.Forall₂ PairText pairs settings) {p : Parameters} (h : p.WellFormed) :
    (settings.foldl (fun p s => s.put p) p).WellFormed := by
  induction hall generalizing p with
  | nil => exact h
  | cons hpair _ ih =>
    obtain ⟨hvalue⟩ := hpair
    exact ih (wellFormed_put hvalue h)

theorem wellFormed_of_coordinatesText {list : List Char} {cs : List Coordinate}
    (h : CoordinatesText list cs) : ({ coordinates := cs } : Parameters).WellFormed where
  coordinates_ne_nil := Separated.values_ne_nil h
  coordinates := Separated.forall_values h fun _ _ => CoordinateText.inRange
  hints := nofun
  bearings := nofun
  radiuses := nofun
  exclude := nofun

theorem Sentence.Spells.wellFormed {s : Sentence} {query : List Char} (h : s.Spells query) :
    s.parameters.WellFormed := by
  cases h with
  | alone hlist hnone =>
    rw [Sentence.parameters, hnone]
    exact wellFormed_of_coordinatesText hlist
  | withOptions hlist hoptions =>
    have hall := (separated_iff_splitOn fun _ _ => ampersand_not_mem_of_pairText).mp hoptions
    exact wellFormed_foldl_put hall (wellFormed_of_coordinatesText hlist)

/-! ## Readings -/

/-- Parameters that the parser returns are those of a sentence, wherever it stopped. -/
theorem exists_spells_of_parse {query : String} {p : Parameters} {stop : Nat}
    (h : (parser.parse query).value = .ok (some p, stop)) :
    ∃ (s : Sentence) (head : List Char), s.Spells head ∧ p = s.parameters := by
  rcases query_cases query.toList with hnone | ⟨s, hs⟩ | ⟨s, head, bad, tail, e, hfirst⟩
  · rw [parse_of_noCoordinates hnone] at h
    cases h
  · rw [parse_of_spells hs] at h
    cases h
    exact ⟨s, _, hs, rfl⟩
  · rw [parse_of_firstRejected hfirst] at h
    cases h
    exact ⟨s, head, hfirst.spells, rfl⟩

theorem wellFormed_of_parse {query : String} {p : Parameters} {stop : Nat}
    (h : (parser.parse query).value = .ok (some p, stop)) : p.WellFormed := by
  obtain ⟨s, head, hs, rfl⟩ := exists_spells_of_parse h
  exact hs.wellFormed

end Query

end RoutingGateway
