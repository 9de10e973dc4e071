/-
Writing parameters as a query.

Whatever parameters are well formed can be asked for. `Parameters.write` writes
them in a given layout: the coordinates, the lists that have entries, and all
other parameters as they are. An empty list has no text of its own, since the
empty text is one open entry, so it is left out (`givenList`), and reading
finds it as it began.

How a number is written is left open. The writer is handed a text for every
number, and all it needs of it is that it reads back (`spells_write`). The
image of the parser is thereby known from both sides (`parse_image`).
-/
import RoutingGateway.Proofs.Query.WellFormed

namespace RoutingGateway

/-- A number that stands as a decimal numeral in a query for the parameters: a component of a
coordinate, or a radius. -/
inductive Parameters.HasNumber (p : Parameters) : Float → Prop
  | lon {c : Coordinate} : c ∈ p.coordinates → HasNumber p c.lon
  | lat {c : Coordinate} : c ∈ p.coordinates → HasNumber p c.lat
  | radius {x : Float} : some (.meters x) ∈ p.radiuses → HasNumber p x

namespace Query

open RoutingGateway.Decimal RoutingGateway.Text

/-! ## The writer -/

section Writer

variable (numeral : Float → List Char)

def writeCoordinate (c : Coordinate) : List Char := numeral c.lon ++ ',' :: numeral c.lat

def writeBearing (b : Bearing) : List Char :=
  Nat.toDigits 10 b.direction ++ ',' :: Nat.toDigits 10 b.deviation

def writeRadius : Radius → List Char
  | .unlimited => "unlimited".toList
  | .meters x => numeral x

/-- An entry; one that is left open has no text. -/
def writeEntry {α : Type} (write : α → List Char) : Option α → List Char
  | none => []
  | some value => write value

/-- Values with a separator between them. -/
def writeList {α : Type} (sep : Char) (write : α → List Char) (values : List α) : List Char :=
  [sep].intercalate (values.map write)

/-- The value of a setting. -/
def Setting.writeValue : Setting → List Char
  | hints entries => writeList ';' (writeEntry String.toList) entries
  | bearings entries => writeList ';' (writeEntry writeBearing) entries
  | radiuses entries => writeList ';' (writeEntry (writeRadius numeral)) entries
  | approaches entries => writeList ';' (writeEntry fun a => a.keyword.toList) entries
  | format value => value.keyword.toList
  | steps value => (flagWord value).toList
  | alternatives value => (flagWord value).toList
  | overview value => value.keyword.toList
  | geometries value => value.keyword.toList
  | exclude classes => writeList ',' String.toList classes
  | generateHints value => (flagWord value).toList

/-- A setting as a pair. -/
def Setting.write (s : Setting) : List Char :=
  s.key.name.toList ++ '=' :: s.writeValue numeral

/-- The setting of a list, unless the list is empty. -/
def givenList {α : Type} (setting : List α → Setting) (values : List α) : List Setting :=
  if values = [] then [] else [setting values]

/-- The settings that make up the parameters. -/
def settingsOf (p : Parameters) : List Setting :=
  givenList .hints p.hints ++ (givenList .bearings p.bearings ++
    (givenList .radiuses p.radiuses ++ (givenList .approaches p.approaches ++
      (givenList .exclude p.exclude ++ (p.format.toList.map .format ++
        [.steps p.steps, .alternatives p.alternatives, .overview p.overview,
          .geometries p.geometries, .generateHints p.generateHints])))))

/-- The parameters as a query. -/
def write (layout : Layout) (p : Parameters) : List Char :=
  layout.opening ++ (writeList ';' (writeCoordinate numeral) p.coordinates ++
    layout.separator :: writeList '&' (Setting.write numeral) (settingsOf p))

end Writer

/-! ## What the settings amount to -/

/-- A list that is left out is already as it should be. -/
theorem foldl_put_givenList {α : Type} {setting : List α → Setting} {values : List α}
    {p : Parameters} (h : (setting []).put p = p) (rest : List Setting) :
    (givenList setting values ++ rest).foldl (fun p s => s.put p) p =
      rest.foldl (fun p s => s.put p) ((setting values).put p) := by
  unfold givenList
  split
  · next hnil => rw [List.nil_append, hnil, h]
  · rfl

theorem foldl_put_format {format : Option OutputFormat} {p : Parameters}
    (h : { p with format := none } = p) (rest : List Setting) :
    (format.toList.map Setting.format ++ rest).foldl (fun p s => s.put p) p =
      rest.foldl (fun p s => s.put p) { p with format } := by
  cases format with
  | none => rw [h]; rfl
  | some value => rfl

/-- The settings of parameters, put into what the coordinates alone stand for, make the
parameters. -/
theorem foldl_put_settingsOf (p : Parameters) :
    (settingsOf p).foldl (fun p s => s.put p) { coordinates := p.coordinates } = p := by
  unfold settingsOf
  rw [foldl_put_givenList rfl, foldl_put_givenList rfl, foldl_put_givenList rfl,
    foldl_put_givenList rfl, foldl_put_givenList rfl, foldl_put_format rfl]
  simp only [List.foldl_cons, List.foldl_nil, Setting.put]

theorem map_key_givenList_sublist {α : Type} {setting : List α → Setting} {key : Key}
    (hkey : ∀ values, (setting values).key = key) (values : List α) :
    ((givenList setting values).map Setting.key).Sublist [key] := by
  unfold givenList
  split
  · exact List.nil_sublist _
  · rw [List.map_singleton, hkey]

theorem map_key_format_sublist (format : Option OutputFormat) :
    ((format.toList.map Setting.format).map Setting.key).Sublist [Key.format] := by
  cases format with
  | none => exact List.nil_sublist _
  | some value => exact List.Sublist.refl _

/-- No key is written twice. -/
theorem nodup_map_key_settingsOf (p : Parameters) : ((settingsOf p).map Setting.key).Nodup := by
  have hall : ([Key.hints] ++ ([Key.bearings] ++ ([Key.radiuses] ++ ([Key.approaches] ++
      ([Key.exclude] ++ ([Key.format] ++ [Key.steps, Key.alternatives, Key.overview,
        Key.geometries, Key.generateHints])))))).Nodup := by decide
  refine List.Nodup.sublist ?_ hall
  simp only [settingsOf, List.map_append]
  exact (map_key_givenList_sublist (fun _ => rfl) _).append <|
    (map_key_givenList_sublist (fun _ => rfl) _).append <|
    (map_key_givenList_sublist (fun _ => rfl) _).append <|
    (map_key_givenList_sublist (fun _ => rfl) _).append <|
    (map_key_givenList_sublist (fun _ => rfl) _).append <|
    (map_key_format_sublist p.format).append (List.Sublist.refl _)

/-- The sentence of the parameters. -/
def sentenceOf (layout : Layout) (p : Parameters) : Sentence where
  layout
  coordinates := p.coordinates
  settings := settingsOf p
  distinct := nodup_map_key_settingsOf p

theorem parameters_sentenceOf (layout : Layout) (p : Parameters) :
    (sentenceOf layout p).parameters = p := foldl_put_settingsOf p

/-! ## Texts of values -/

theorem separated_writeList {α : Type} {Item : List Char → α → Prop} {write : α → List Char}
    (sep : Char) {values : List α} (hne : values ≠ []) (h : ∀ a ∈ values, Item (write a) a) :
    Separated sep Item (writeList sep write values) values := by
  refine ⟨values.map write, by simpa using hne, rfl, ?_⟩
  rw [List.forall₂_map_left_iff]
  exact List.forall₂_same.mpr h

theorem entriesText_writeList {α : Type} {Item : List Char → α → Prop} {write : α → List Char}
    {entries : List (Option α)} (hne : entries ≠ [])
    (h : ∀ a, some a ∈ entries → Item (write a) a) :
    EntriesText Item (writeList ';' (writeEntry write) entries) entries := by
  refine separated_writeList ';' hne fun entry hentry => ?_
  cases entry with
  | none => exact .left
  | some value => exact .given (h value hentry)

theorem hintText_toList {hint : String} (h : HintAllowed hint) : HintText hint.toList hint :=
  ⟨fun hnil => h.1 (String.toList_eq_nil_iff.mp hnil), h.2, String.ofList_toList.symm⟩

theorem classText_toList {name : String} (h : ClassAllowed name) : ClassText name.toList name :=
  ⟨fun hnil => h.1 (String.toList_eq_nil_iff.mp hnil), h.2, String.ofList_toList.symm⟩

theorem wholeText_toDigits (n : Nat) : WholeText (Nat.toDigits 10 n) n := by
  have hdigits : ∀ c ∈ Nat.toDigits 10 n, c.isDigit = true :=
    fun c hc => Nat.isDigit_of_mem_toDigits (by decide) (by decide) hc
  have htext := WholeText.unsigned Nat.toDigits_ne_nil hdigits
  rwa [show ofDigits (Nat.toDigits 10 n) = n from Nat.ofDigitChars_ten_toDigits] at htext

theorem bearingText_write {b : Bearing} (h : BearingAllowed b) : BearingText (writeBearing b) b :=
  .intro (wholeText_toDigits _) (wholeText_toDigits _) h.1 h.2

section Numerals

variable {numeral : Float → List Char}

theorem coordinateText_write {c : Coordinate} (h : c.InRange)
    (hlon : readFloat? (numeral c.lon) = some c.lon)
    (hlat : readFloat? (numeral c.lat) = some c.lat) :
    CoordinateText (writeCoordinate numeral c) c :=
  .intro ⟨hlon, h.lon_finite⟩ ⟨hlat, h.lat_finite⟩ h.west h.east h.south h.north

theorem radiusText_write {r : Radius} (h : RadiusAllowed r)
    (hread : ∀ x, r = .meters x → readFloat? (numeral x) = some x) :
    RadiusText (writeRadius numeral r) r := by
  cases r with
  | unlimited => exact .unlimited
  | meters x => exact .meters ⟨hread x rfl, h.1⟩ h.2

/-! ## Texts of parameters -/

variable {p : Parameters} (hp : p.WellFormed)
  (hread : ∀ x, p.HasNumber x → readFloat? (numeral x) = some x)

include hp hread

theorem valueText_writeValue {s : Setting} (hs : s ∈ settingsOf p) :
    s.ValueText (s.writeValue numeral) := by
  simp only [settingsOf, givenList, List.mem_append, List.mem_cons, List.mem_map,
    Option.mem_toList, List.not_mem_nil, or_false, List.mem_ite_nil_left] at hs
  rcases hs with ⟨hne, rfl⟩ | ⟨hne, rfl⟩ | ⟨hne, rfl⟩ | ⟨hne, rfl⟩ | ⟨hne, rfl⟩ |
    ⟨value, -, rfl⟩ | rfl | rfl | rfl | rfl | rfl
  · exact entriesText_writeList hne fun hint h => hintText_toList (hp.hints hint h)
  · exact entriesText_writeList hne fun b h => bearingText_write (hp.bearings b h)
  · refine entriesText_writeList hne fun r h => radiusText_write (hp.radiuses r h) fun x hx => ?_
    exact hread x (.radius (hx ▸ h))
  · exact entriesText_writeList hne fun _ _ => rfl
  · exact separated_writeList ',' hne fun name h => classText_toList (hp.exclude name h)
  all_goals rfl

/-- What is written spells the sentence of the parameters. -/
theorem spells_write (layout : Layout) :
    (sentenceOf layout p).Spells (write numeral layout p) := by
  have hcoordinates : CoordinatesText (writeList ';' (writeCoordinate numeral) p.coordinates)
      p.coordinates :=
    separated_writeList ';' hp.coordinates_ne_nil fun c hc =>
      coordinateText_write (hp.coordinates c hc) (hread _ (.lon hc)) (hread _ (.lat hc))
  have hsettings : settingsOf p ≠ [] := by simp [settingsOf]
  exact .withOptions hcoordinates <| separated_writeList '&' hsettings fun s hs =>
    .intro (valueText_writeValue hp hread hs)

end Numerals

/-! ## The image of the parser -/

/-- What is written in a layout is read in this layout. -/
theorem layoutOf_of_spells {s : Sentence} {query : List Char} (h : s.Spells query) :
    (layoutOf query).1 = s.layout := by
  have layout_of {list : List Char} (hlist : CoordinatesText list s.coordinates)
      (options : Option (List Char)) :
      (layoutOf (s.layout.opening ++ (list ++ behind s.layout options))).1 = s.layout :=
    congrArg Prod.fst (CoordinatesText.parts s.layout hlist options).layoutOf_text
  cases h with
  | @alone list hlist _ =>
    have halone := layout_of hlist none
    rwa [behind, List.append_nil] at halone
  | withOptions hlist _ => exact layout_of hlist (some _)

/-- The parser returns well-formed parameters, whether it reads a query to its end or stops on
the way; and all well-formed parameters whose numbers can be written are returned for a
query that is read to its end, in either layout. -/
theorem parse_image :
    (∀ query p stop, (parser.parse query).value = .ok (some p, stop) → p.WellFormed) ∧
    ∀ p : Parameters, p.WellFormed →
      (∀ x, p.HasNumber x → ∃ text, readFloat? text = some x) → ∀ layout, ∃ query : String,
        (layoutOf query.toList).1 = layout ∧
          (parser.parse query).value = .ok (some p, query.utf8ByteSize) := by
  refine ⟨fun query p stop => wellFormed_of_parse, fun p hp hnumbers layout => ?_⟩
  have htexts : ∀ x, ∃ text, p.HasNumber x → readFloat? text = some x := fun x => by
    by_cases hx : p.HasNumber x
    · obtain ⟨text, htext⟩ := hnumbers x hx
      exact ⟨text, fun _ => htext⟩
    · exact ⟨[], fun h => absurd h hx⟩
  choose numeral hread using htexts
  have hspells := spells_write hp hread layout
  have hquery : (sentenceOf layout p).Spells (String.ofList (write numeral layout p)).toList := by
    rw [String.toList_ofList]
    exact hspells
  refine ⟨String.ofList (write numeral layout p), layoutOf_of_spells hquery, ?_⟩
  rw [parse_of_spells hquery, parameters_sentenceOf]

/-- One coordinate with two entries for its radius, the first of them open, is read from a query
that is not read to its end; so it can also be asked for in either layout. -/
theorem parse_image_openEntry :
    let p : Parameters :=
      { coordinates := [⟨1.0, 1.0⟩], radiuses := [none, some (.meters 1.0)] }
    (parser.parse "1,1?radiuses=;1&x").value = .ok (some p, 15) ∧ p.WellFormed ∧
      ∀ layout, ∃ query : String, (layoutOf query.toList).1 = layout ∧
        (parser.parse query).value = .ok (some p, query.utf8ByteSize) := by
  intro p
  have hparse : (parser.parse "1,1?radiuses=;1&x").value = .ok (some p, 15) := by rfl
  have hp : p.WellFormed := parse_image.1 _ p 15 hparse
  refine ⟨hparse, hp, parse_image.2 p hp fun x hx => ⟨"1".toList, ?_⟩⟩
  cases hx with
  | lon hc => cases List.mem_singleton.mp hc; rfl
  | lat hc => cases List.mem_singleton.mp hc; rfl
  | radius hr =>
    obtain hopen | hgiven := List.mem_pair.mp hr
    · cases hopen
    · cases hgiven; rfl

end Query

end RoutingGateway
