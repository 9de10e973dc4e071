/-
The places a reading counts.

A reading counts in bytes. The pairs have their offsets, and where the reading
stops it tells a place. None of these numbers leaves the query: every pair
begins behind its first byte, so there is a place in front of it, and ends inside
of it (`Parts.pair_inside`), and so does the reading (`stop_of_parse`).

What is read is bounded by the query as well. A coordinate and the separator
behind it take four bytes at least (`CoordinatesText.four_mul_length_le`), so there
is a bound to the size of a route (`Sentence.Spells.buffer_le`).
-/
import RoutingGateway.Proofs.Query.Parser

namespace RoutingGateway

open RoutingGateway.Text

/-! ## Pieces -/

/-- A piece begins where the first one does or later, and a separator behind it is counted with
the pieces. -/
theorem Text.located_bounds {start place : Nat} {pieces : List (List Char)} {piece : List Char}
    (h : (place, piece) ∈ located start pieces) :
    start ≤ place ∧ place + width piece + 1 ≤ start + extent pieces := by
  induction pieces generalizing start with
  | nil => cases h
  | cons first rest ih =>
    rw [located_cons] at h
    rw [extent_cons]
    rcases List.mem_cons.mp h with h | h
    · cases h
      exact ⟨Nat.le_refl _, by omega⟩
    · obtain ⟨hstart, hend⟩ := ih h
      exact ⟨by omega, by omega⟩

namespace Query

/-! ## Pairs -/

/-- The pairs and their separators reach to the end of the query. -/
theorem Parts.extent_pairs {q : Parts} (h : q.pairs ≠ []) :
    width q.layout.opening + width q.list + 1 + extent q.pairs = width q.text + 1 := by
  unfold Parts.pairs at h ⊢
  unfold Parts.text
  cases hoptions : q.options with
  | none =>
    rw [hoptions] at h
    exact absurd rfl h
  | some options =>
    have hpieces : options.splitOn '&' ≠ [] := by simp
    have hextent := width_intercalate (show '&'.utf8Size = 1 by decide) hpieces
    rw [List.intercalate_splitOn] at hextent
    simp only [behind, width_append, width_cons, q.layout.utf8Size_separator, ← hextent]
    omega

/-- In front of every pair there is a place, and the pair ends inside the query. -/
theorem Parts.pair_inside (q : Parts) {place : Nat} {pair : List Char}
    (h : (place, pair) ∈ located (width q.layout.opening + width q.list + 1) q.pairs) :
    0 < place ∧ place + width pair ≤ width q.text := by
  have hpairs : q.pairs ≠ [] := fun hnil => by
    rw [hnil] at h
    cases h
  obtain ⟨hstart, hend⟩ := located_bounds h
  rw [q.extent_pairs hpairs] at hend
  exact ⟨by omega, by omega⟩

/-! ## Stops -/

/-- The parser answers every query, and stops inside of it. -/
theorem stop_of_parse (query : String) : ∃ parameters stop,
    (parser.parse query).value = .ok (parameters, stop) ∧ stop ≤ query.utf8ByteSize := by
  rcases query_cases query.toList with hnone | ⟨s, hs⟩ | ⟨s, head, bad, tail, e, hfirst⟩
  · exact ⟨none, 0, by rw [parse_of_noCoordinates hnone], Nat.zero_le _⟩
  · exact ⟨some s.parameters, _, by rw [parse_of_spells hs], Nat.le_refl _⟩
  · exact ⟨some s.parameters, _, by rw [parse_of_firstRejected hfirst],
      Nat.le_of_lt hfirst.width_head_lt⟩

/-! ## Coordinates -/

theorem FiniteText.ne_nil {text : List Char} {x : Float} (h : FiniteText text x) : text ≠ [] := by
  intro hnil
  have hread := h.1
  rw [hnil] at hread
  cases hread

theorem one_le_width {text : List Char} (h : text ≠ []) : 1 ≤ width text := by
  obtain ⟨c, rest, rfl⟩ := List.exists_cons_of_ne_nil h
  have hc : 0 < c.utf8Size := c.utf8Size_pos
  rw [width_cons]
  omega

/-- A coordinate takes three bytes at least: two numbers and a comma. -/
theorem CoordinateText.three_le_width {text : List Char} {c : Coordinate}
    (h : CoordinateText text c) : 3 ≤ width text := by
  cases h with
  | @intro lon lat _ hlon hlat _ _ _ _ =>
    have hlon' := one_le_width hlon.ne_nil
    have hlat' := one_le_width hlat.ne_nil
    have hcomma : ','.utf8Size = 1 := by decide
    rw [width_append, width_cons]
    omega

theorem CoordinatesText.four_mul_length_le {text : List Char} {cs : List Coordinate}
    (h : CoordinatesText text cs) : 4 * cs.length ≤ width text + 1 := by
  obtain ⟨pieces, hne, rfl, hall⟩ := h
  rw [width_intercalate (by decide) hne]
  clear hne
  induction hall with
  | nil => exact Nat.le_refl _
  | cons hitem _ ih =>
    have hwidth := hitem.three_le_width
    rw [List.length_cons, extent_cons]
    omega

theorem Sentence.Spells.exists_coordinatesText {s : Sentence} {query : List Char}
    (h : s.Spells query) :
    ∃ list, CoordinatesText list s.coordinates ∧ width list ≤ width query := by
  cases h with
  | alone hlist _ => exact ⟨_, hlist, by rw [width_append]; omega⟩
  | withOptions hlist _ => exact ⟨_, hlist, by rw [width_append, width_append]; omega⟩

/-- A buffer for the route takes at most four times the bytes of the query: sixteen for each
coordinate but the first, which takes four bytes of the query with its separator. -/
theorem Sentence.Spells.buffer_le {s : Sentence} {query : List Char} (h : s.Spells query) :
    4 + 16 * (max s.coordinates.length 1 - 1) ≤ 4 * width query := by
  obtain ⟨list, hlist, hwidth⟩ := h.exists_coordinatesText
  have hlength := hlist.four_mul_length_le
  have hpos : 0 < s.coordinates.length := List.length_pos_of_ne_nil (Separated.values_ne_nil hlist)
  omega

end Query

end RoutingGateway
