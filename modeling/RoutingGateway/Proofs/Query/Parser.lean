/-
What the parser of route queries returns.

The parser returns parameters, if any, and the offset at which the reading
ended. `parse_eq_whole_iff` says which queries it reads to their end and what
it makes of them: exactly the texts of the grammar, and the parameters of the
sentences they spell. `parse_outcomes` says what becomes of all others. No
parameters come with the offset 0 and with nothing else, and that is the case
exactly where the coordinates are malformed; parameters with an earlier offset
are those of the text in front of the first rejected pair, whose reason is
logged.
-/
import RoutingGateway.Proofs.Query.Reading
import RoutingGateway.Service

namespace RoutingGateway.Query

open RoutingGateway.Text

/-! ## The three results -/

theorem parse_of_read {query : String} {reading : Reading} (h : read query.toList = reading) :
    parser.parse query =
      { value := .ok (reading.parameters, reading.stop query.toList), events := reading.events } := by
  rw [← h]
  rfl

theorem parse_of_noCoordinates {query : String}
    (h : ∀ cs, ¬ CoordinatesText (coordinateText query.toList) cs) :
    parser.parse query =
      { value := .ok (none, 0)
        events := [.noCoordinates (String.ofList (coordinateText query.toList))] } :=
  parse_of_read (read_of_noCoordinates h)

theorem parse_of_spells {query : String} {s : Sentence} (h : s.Spells query.toList) :
    parser.parse query =
      { value := .ok (some s.parameters, query.utf8ByteSize), events := [] } := by
  rw [parse_of_read (read_of_spells h), utf8ByteSize_eq_width]
  rfl

theorem parse_of_firstRejected {query : String} {s : Sentence} {head bad tail : List Char}
    {e : PairError} (h : FirstRejected query.toList s head bad tail e) :
    parser.parse query =
      { value := .ok (some s.parameters, width head)
        events := [.readingStopped (width head) e] } :=
  parse_of_read (read_of_firstRejected h)

/-- The text in front of the first rejected pair is read to its end. -/
theorem parse_head {query : List Char} {s : Sentence} {head bad tail : List Char}
    {e : PairError} (h : FirstRejected query s head bad tail e) :
    parser.parse (String.ofList head) =
      { value := .ok (some s.parameters, width head), events := [] } := by
  have hspells : s.Spells (String.ofList head).toList := by
    rw [String.toList_ofList]
    exact h.spells
  rw [parse_of_spells hspells, utf8ByteSize_ofList]

/-- The separator in front of the rejected pair takes at least one byte. -/
theorem FirstRejected.width_head_lt {query : String} {s : Sentence} {head bad tail : List Char}
    {e : PairError} (h : FirstRejected query.toList s head bad tail e) :
    width head < query.utf8ByteSize := by
  have hpos := s.nextSeparator.utf8Size_pos
  rw [utf8ByteSize_eq_width, h.text, width_append, width_cons]
  omega

/-! ## Acceptance -/

/-- The parser reads a query to its end exactly where its reading comes to an end, and
it returns what was read. -/
theorem parse_eq_whole_iff_read {query : String} {p : Parameters} :
    (parser.parse query).value = .ok (some p, query.utf8ByteSize) ↔
      read query.toList = .complete p := by
  constructor
  · intro hparse
    rcases query_cases query.toList with h | ⟨s, h⟩ | ⟨s, head, bad, tail, e, h⟩
    · rw [parse_of_noCoordinates h] at hparse
      cases hparse
    · rw [parse_of_spells h] at hparse
      cases hparse
      exact read_of_spells h
    · rw [parse_of_firstRejected h] at hparse
      injection hparse with hparse
      exact absurd (Prod.mk.inj hparse).2 (Nat.ne_of_lt h.width_head_lt)
  · intro h
    rw [parse_of_read h, utf8ByteSize_eq_width]
    rfl

/-- The parser reads a query to its end exactly when the query spells a sentence, and
what it returns are the parameters the sentence stands for. -/
theorem parse_eq_whole_iff (query : String) (p : Parameters) :
    (parser.parse query).value = .ok (some p, query.utf8ByteSize) ↔
      ∃ s : Sentence, s.Spells query.toList ∧ p = s.parameters := by
  constructor
  · intro hparse
    rcases query_cases query.toList with h | ⟨s, h⟩ | ⟨s, head, bad, tail, e, h⟩
    · rw [parse_of_noCoordinates h] at hparse
      cases hparse
    · rw [parse_of_spells h] at hparse
      cases hparse
      exact ⟨s, h, rfl⟩
    · rw [parse_of_firstRejected h] at hparse
      injection hparse with hparse
      exact absurd (Prod.mk.inj hparse).2 (Nat.ne_of_lt h.width_head_lt)
  · intro ⟨s, h, hp⟩
    rw [parse_of_spells h, hp]

/-! ## Attribution -/

/-- What the parser returns when it does not read a query to its end. It returns no
parameters exactly where there are no good coordinates, and the offset is 0
then. It stops early exactly in front of a pair that is rejected behind a text
which alone is read to its end; the parameters are those of that text and the
reason is logged with the offset. What follows the pair makes no difference. -/
theorem parse_outcomes (query : String) :
    (∀ stop, (parser.parse query).value = .ok (none, stop) ↔
      stop = 0 ∧ ∀ cs, ¬ CoordinatesText (coordinateText query.toList) cs) ∧
    (∀ p stop, (parser.parse query).value = .ok (some p, stop) ∧ stop < query.utf8ByteSize ↔
      ∃ s head bad tail e, FirstRejected query.toList s head bad tail e ∧ width head = stop ∧
        (parser.parse (String.ofList head)).value = .ok (some p, stop)) ∧
    ∀ s head bad tail e, FirstRejected query.toList s head bad tail e →
      (parser.parse query).events = [.readingStopped (width head) e] ∧
      ∀ tail', EndsPair tail' →
        parser.parse (String.ofList (head ++ s.nextSeparator :: (bad ++ tail'))) =
          parser.parse query := by
  refine ⟨fun stop => ⟨fun hparse => ?_, ?_⟩, fun p stop => ⟨?_, ?_⟩, ?_⟩
  · rcases query_cases query.toList with h | ⟨s, h⟩ | ⟨s, head, bad, tail, e, h⟩
    · rw [parse_of_noCoordinates h] at hparse
      cases hparse
      exact ⟨rfl, h⟩
    · rw [parse_of_spells h] at hparse
      cases hparse
    · rw [parse_of_firstRejected h] at hparse
      cases hparse
  · intro ⟨hstop, h⟩
    rw [parse_of_noCoordinates h, hstop]
  · intro ⟨hparse, hlt⟩
    rcases query_cases query.toList with h | ⟨s, h⟩ | ⟨s, head, bad, tail, e, h⟩
    · rw [parse_of_noCoordinates h] at hparse
      cases hparse
    · rw [parse_of_spells h] at hparse
      cases hparse
      exact absurd hlt (Nat.lt_irrefl _)
    · rw [parse_of_firstRejected h] at hparse
      cases hparse
      exact ⟨s, head, bad, tail, e, h, rfl, congrArg Logged.value (parse_head h)⟩
  · intro ⟨s, head, bad, tail, e, h, hstop, hhead⟩
    rw [parse_head h] at hhead
    cases hhead
    exact ⟨congrArg Logged.value (parse_of_firstRejected h), h.width_head_lt⟩
  · intro s head bad tail e h
    rw [parse_of_firstRejected h]
    refine ⟨rfl, fun tail' htail => parse_of_firstRejected ⟨?_, h.spells, h.pair, htail, h.rejected⟩⟩
    rw [String.toList_ofList]

/-- A switch takes two words: with a third the reading stops at the question mark. -/
theorem parse_outcomes_switch : ∃ s head tail,
    FirstRejected "1,1;2,2?steps=maybe&x".toList s head "steps=maybe".toList tail
      (.malformedValue "steps") ∧
    (parser.parse "1,1;2,2?steps=maybe&x").events = [.readingStopped 7 (.malformedValue "steps")] := by
  obtain ⟨cs, hcs⟩ := Option.isSome_iff_exists.mp
    (show (coordinates? "1,1;2,2".toList).isSome = true by decide)
  let s : Sentence := { layout := .bare, coordinates := cs, settings := [], distinct := by simp }
  have hvalue : ∀ s : Setting, s.key = .steps → ¬ s.ValueText "maybe".toList :=
    set?_eq_none_iff.mp (rfl : Key.steps.set? "maybe".toList default = none)
  have hrejected : Rejected s.keys (Key.steps.name.toList ++ '=' :: "maybe".toList)
      (.malformedValue Key.steps.name) := .malformedValue (by decide) (List.not_mem_nil) hvalue
  have h : FirstRejected "1,1;2,2?steps=maybe&x".toList s "1,1;2,2".toList "steps=maybe".toList
      "&x".toList (.malformedValue "steps") :=
    { text := rfl
      spells := .alone (coordinates?_eq_some_iff.mp hcs) rfl
      pair := by decide
      ends := by simp [EndsPair]
      rejected := hrejected }
  exact ⟨s, _, _, h, ((parse_outcomes _).2.2 s _ _ _ _ h).1⟩

end RoutingGateway.Query
