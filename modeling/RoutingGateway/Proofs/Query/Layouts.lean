/-
The two layouts of a query.

A list of coordinates and a text of options make a query in either layout, and
both are read as the same parameters. A reading that stops on the way stops at
the same pair and for the same reason; only its offset counts the bytes of what
the query begins with (`read_text_shift`). Where the coordinates are malformed
there is no offset to count from, and the readings are the same.
-/
import RoutingGateway.Proofs.Query.Reading

namespace RoutingGateway.Query

open RoutingGateway.Text

/-- The reading with the offset of its stop moved on. -/
def Reading.shift (count : Nat) : Reading → Reading
  | .complete p => .complete p
  | .stopped p offset e => .stopped p (offset + count) e
  | .noCoordinates list => .noCoordinates list

/-- Pairs that stand further on are read in the same way. There is a separator in front of
the first one, so its offset is not 0. -/
theorem readPairs_shift (count : Nat) (seen : List Key) (p : Parameters) {start : Nat}
    (hstart : 0 < start) (pairs : List (List Char)) :
    readPairs seen p (located (start + count) pairs) =
      (readPairs seen p (located start pairs)).shift count := by
  induction pairs generalizing seen p start with
  | nil => rfl
  | cons pair rest ih =>
    rw [located_cons, located_cons, readPairs, readPairs]
    cases readPair seen p pair with
    | error e =>
      have hoffset : start + count - 1 = start - 1 + count := by omega
      simp only [Reading.shift, hoffset]
    | ok result =>
      obtain ⟨key, q⟩ := result
      have hnext : start + count + width pair + 1 = start + width pair + 1 + count := by omega
      simp only [hnext]
      exact ih (key :: seen) q (Nat.succ_pos _)

theorem readParts_shift (start count : Nat) (list : List Char) (options : Option (List Char)) :
    readParts (start + count) list options = (readParts start list options).shift count := by
  unfold readParts
  cases coordinates? list with
  | none => rfl
  | some coordinates =>
    cases options with
    | none => rfl
    | some text =>
      have hstart : start + count + width list + 1 = start + width list + 1 + count := by omega
      simp only [hstart]
      exact readPairs_shift count _ _ (Nat.succ_pos _) _

/-- Queries with the same list of coordinates and the same options are read alike. The
offsets differ by the bytes of what the one begins with. -/
theorem read_text_shift {q bare : Parts} (hbare : bare.layout = .bare) (hlist : bare.list = q.list)
    (hoptions : bare.options = q.options) :
    read q.text = (read bare.text).shift (width q.layout.opening) := by
  rw [q.read_text, bare.read_text, hbare, hlist, hoptions, ← readParts_shift]
  exact congrArg (readParts · q.list q.options) (Nat.zero_add _).symm

/-- Nothing is read exactly where there are no good coordinates. -/
theorem parameters_read_text_eq_none_iff {q : Parts} :
    (read q.text).parameters = none ↔ ∀ cs, ¬ CoordinatesText q.list cs := by
  rw [← q.coordinateText_text]
  constructor
  · intro hnone
    rcases query_cases q.text with h | ⟨s, h⟩ | ⟨s, head, bad, tail, e, h⟩
    · exact h
    · rw [read_of_spells h] at hnone
      cases hnone
    · rw [read_of_firstRejected h] at hnone
      cases hnone
  · intro h
    rw [read_of_noCoordinates h]
    rfl

end RoutingGateway.Query
