/-
How many entries a query gives.

Entries stand between semicolons, so there is one more of them than there are
semicolons (`EntriesText.length_eq`). This holds of an empty text as well, which is
one open entry; a list without entries is one that the query does not give at all
(`Parts.count_of_complete`). The number of coordinates is counted in the same way.
-/
import RoutingGateway.Proofs.Query.Order

namespace RoutingGateway

open RoutingGateway.Text

/-! ## Separators -/

/-- A text has one piece more than separators. -/
theorem Text.length_splitOn (sep : Char) (text : List Char) :
    (text.splitOn sep).length = text.count sep + 1 := by
  induction text with
  | nil => simp
  | cons c rest ih =>
    by_cases h : c = sep
    · simp [List.splitOn_cons_eq_if_modifyHead, h, ih]
    · simp [List.splitOn_cons_eq_if_modifyHead, h, ih]

/-- Where no item contains the separator, there is one value more than separators. -/
theorem Text.Separated.length_values {β : Type} {sep : Char} {Item : List Char → β → Prop}
    {text : List Char} {values : List β} (h : Separated sep Item text values)
    (hsep : ∀ piece value, Item piece value → sep ∉ piece) :
    values.length = text.count sep + 1 := by
  rw [← ((separated_iff_splitOn hsep).mp h).length_eq, length_splitOn]

/-- The key that gives a list. -/
def PerCoordinate.key : PerCoordinate → Query.Key
  | .hints => .hints
  | .bearings => .bearings
  | .radiuses => .radiuses
  | .approaches => .approaches

theorem PerCoordinate.name_key (list : PerCoordinate) : list.key.name = list.name := by
  cases list <;> rfl

namespace Query

theorem EntriesText.length_eq {α : Type} {Item : List Char → α → Prop} {text : List Char}
    {entries : List (Option α)} (h : EntriesText Item text entries)
    (hitem : ∀ text value, Item text value → ∀ c ∈ text, IsValueChar c ∧ c ≠ ';') :
    entries.length = text.count ';' + 1 := by
  refine Separated.length_values h fun piece entry hentry hmem => ?_
  cases hentry with
  | left => cases hmem
  | given hvalue => exact (hitem _ _ hvalue _ hmem).2 rfl

theorem CoordinatesText.length_eq {text : List Char} {cs : List Coordinate}
    (h : CoordinatesText text cs) : cs.length = text.count ';' + 1 :=
  Separated.length_values h fun _ _ => semicolon_not_mem_of_coordinateText

/-! ## Settings -/

/-- A pair tells its key and its value. -/
theorem PairText.key_value {key : Key} {value : List Char} {s : Setting}
    (h : PairText (key.name.toList ++ '=' :: value) s) : s.key = key ∧ s.ValueText value := by
  generalize hpair : key.name.toList ++ '=' :: value = pair at h
  obtain ⟨hvalue⟩ := h
  next value' =>
  have hcut : cut '=' (key.name.toList ++ '=' :: value) = some (s.key.name.toList, value') :=
    cut_eq_some_iff.mpr ⟨hpair, equals_not_mem_key_name s.key⟩
  rw [cut_eq_some_iff.mpr ⟨rfl, equals_not_mem_key_name key⟩] at hcut
  injection hcut with hparts
  injection hparts with hname hsame
  have hkey : some key = some s.key := by rw [← ofName?_name, ← ofName?_name, hname]
  exact ⟨(Option.some.inj hkey).symm, hsame ▸ hvalue⟩

theorem Key.owns_count (list : PerCoordinate) : list.key.Owns (·.count list) := by
  intro s p h
  cases list <;> cases s <;> first | rfl | exact absurd rfl h

/-- The setting of a list puts in as many entries as its value has. -/
theorem count_put {list : PerCoordinate} {s : Setting} (hkey : s.key = list.key)
    {value : List Char} (hvalue : s.ValueText value) (p : Parameters) :
    (s.put p).count list = value.count ';' + 1 := by
  cases list with
  | hints =>
    cases s with
    | hints entries => exact EntriesText.length_eq hvalue fun _ _ => HintText.isValueChar
    | _ => cases hkey
  | bearings =>
    cases s with
    | bearings entries => exact EntriesText.length_eq hvalue fun _ _ => BearingText.isValueChar
    | _ => cases hkey
  | radiuses =>
    cases s with
    | radiuses entries => exact EntriesText.length_eq hvalue fun _ _ => RadiusText.isValueChar
    | _ => cases hkey
  | approaches =>
    cases s with
    | approaches entries => exact EntriesText.length_eq hvalue fun _ _ => approachText_isValueChar
    | _ => cases hkey

/-! ## Queries -/

namespace Parts

/-- Among the pairs of the query there is one that gives the list this value. -/
def Gives (q : Parts) (list : PerCoordinate) (value : List Char) : Prop :=
  list.name.toList ++ '=' :: value ∈ q.pairs

/-- A query that is read to its end is good coordinates, and settings of which no two have the
same key. -/
theorem exists_settings {q : Parts} {p : Parameters} (h : read q.text = .complete p) :
    ∃ cs settings, CoordinatesText q.list cs ∧ List.Forall₂ PairText q.pairs settings ∧
      (settings.map Setting.key).Nodup ∧
      p = settings.foldl (fun p s => s.put p) { coordinates := cs } := by
  rw [q.read_text_of_pairs] at h
  cases hcoordinates : coordinates? q.list with
  | none =>
    rw [hcoordinates] at h
    cases h
  | some cs =>
    rw [hcoordinates] at h
    obtain ⟨settings, hall, hdistinct, hp⟩ := readPairs_eq_complete_iff.mp h
    exact ⟨cs, settings, coordinates?_eq_some_iff.mp hcoordinates, hall, hdistinct, hp⟩

theorem coordinates_of_complete {q : Parts} {p : Parameters} (h : read q.text = .complete p) :
    p.coordinates.length = q.list.count ';' + 1 := by
  obtain ⟨cs, settings, hlist, -, -, rfl⟩ := q.exists_settings h
  have hcoordinates := Key.owns_coordinates.foldl_put
    (fun s (_ : s ∈ settings) => setting_key_ne_coordinates s) { coordinates := cs }
  rw [hcoordinates]
  exact hlist.length_eq

/-- A list that the query gives has one entry more than its value has semicolons, and a list
that it does not give has none. -/
theorem count_of_complete {q : Parts} {p : Parameters} (h : read q.text = .complete p)
    (list : PerCoordinate) :
    (∀ value, q.Gives list value → p.count list = value.count ';' + 1) ∧
      ((∀ value, ¬ q.Gives list value) → p.count list = 0) := by
  obtain ⟨cs, settings, -, hpairs, hdistinct, rfl⟩ := q.exists_settings h
  constructor
  · intro value hgives
    obtain ⟨s, hs, hpair⟩ := exists_right_of_forall₂ hpairs hgives
    rw [← list.name_key] at hpair
    obtain ⟨hkey, hvalue⟩ := hpair.key_value
    obtain ⟨r, hr⟩ := (Key.owns_count list).exists_foldl_put hdistinct hs hkey
      { coordinates := cs }
    rw [hr, count_put hkey hvalue]
  · intro hnot
    have hother : ∀ s ∈ settings, s.key ≠ list.key := by
      intro s hs hkey
      obtain ⟨pair, hmem, hpair⟩ := exists_left_of_forall₂ hpairs hs
      obtain ⟨hvalue⟩ := hpair
      rw [hkey, list.name_key] at hmem
      exact hnot _ hmem
    rw [(Key.owns_count list).foldl_put hother]
    cases list <;> rfl

end Parts

end Query

end RoutingGateway
