/-
Queries that reach the engine, by their semicolons.

Whether the lists of a query fit its coordinates shows in its text: a list fits where its
value has as many semicolons as the coordinates (`Query.Parts.Fits`). Where all lists
fit and there is a semicolon between coordinates, the engine is asked. Every other query
is refused for its first fault, and the order of faults is not that of the query
(`Query.Parts.FirstFault`).

A list with an empty value is one open entry. It fits a single coordinate only, unlike
a list that is not given, which fits any number of them.
-/
import RoutingGateway.Proofs.Query.Entries
import RoutingGateway.Proofs.Service.Pipeline

namespace RoutingGateway

namespace Query.Parts

/-! ## Faults in the text -/

/-- If the query gives the list, then with as many semicolons as the coordinates have. -/
def Fits (q : Parts) (list : PerCoordinate) : Prop :=
  ∀ value, q.Gives list value → value.count ';' = q.list.count ';'

/-- The lists that are checked in front of one of them. -/
def before (list : PerCoordinate) : List PerCoordinate :=
  [.hints, .bearings, .radiuses, .approaches].takeWhile (· ≠ list)

/-- The first fault that the semicolons of the query show. The lists come first, in their order
of checks, with the number of their entries and that of the coordinates. -/
inductive FirstFault (q : Parts) : OptionError → Prop
  | size {list : PerCoordinate} {value : List Char} : q.Gives list value →
      value.count ';' ≠ q.list.count ';' → (∀ earlier ∈ before list, q.Fits earlier) →
      FirstFault q (.sizeMismatch list (value.count ';' + 1) (q.list.count ';' + 1))
  | few : (∀ list, q.Fits list) → ';' ∉ q.list → FirstFault q .tooFewCoordinates

/-- A query with a fault does not fit. -/
theorem FirstFault.not_fits {q : Parts} {e : OptionError} (h : q.FirstFault e) :
    ¬ (';' ∈ q.list ∧ ∀ list, q.Fits list) := by
  rintro ⟨hsemicolon, hfits⟩
  cases h with
  | size hgives hne _ => exact hne (hfits _ _ hgives)
  | few _ hfew => exact hfew hsemicolon

/-- Of two lists, one is checked before the other. -/
theorem eq_or_before (a b : PerCoordinate) : a = b ∨ a ∈ before b ∨ b ∈ before a := by
  cases a <;> cases b <;> decide

/-- What comes before an element stands in front of each place that holds it. -/
theorem mem_front_of_mem_takeWhile {list earlier : PerCoordinate}
    {all front rest : List PerCoordinate} (hall : all = front ++ list :: rest)
    (h : earlier ∈ all.takeWhile (· ≠ list)) : earlier ∈ front := by
  subst hall
  induction front with
  | nil => simp at h
  | cons first front ih =>
    rw [List.cons_append, List.takeWhile_cons] at h
    split at h
    · obtain rfl | h := List.mem_cons.mp h
      · exact List.mem_cons_self
      · exact List.mem_cons_of_mem first (ih h)
    · cases h

variable {q : Parts} {p : Parameters} (h : read q.text = .complete p)

include h

/-- A list fits in the text exactly where it does in the parameters. -/
theorem fits_iff (list : PerCoordinate) :
    q.Fits list ↔ p.count list = 0 ∨ p.count list = p.coordinates.length := by
  obtain ⟨hgiven, habsent⟩ := count_of_complete h list
  have hcoordinates := coordinates_of_complete h
  constructor
  · intro hfits
    by_cases hgives : ∃ value, q.Gives list value
    · obtain ⟨value, hvalue⟩ := hgives
      have hcount := hgiven value hvalue
      have hsame := hfits value hvalue
      exact .inr (by omega)
    · exact .inl (habsent (not_exists.mp hgives))
  · intro hcount value hvalue
    have hentries := hgiven value hvalue
    omega

theorem agree_iff : p.Agree ↔ ';' ∈ q.list ∧ ∀ list, q.Fits list := by
  have hcoordinates := coordinates_of_complete h
  have htwo : 2 ≤ p.coordinates.length ↔ ';' ∈ q.list := by
    rw [← List.count_pos_iff]
    omega
  exact and_congr htwo (forall_congr' fun list => (fits_iff h list).symm)

/-- The fault that the check of the parameters reports is the first one in the text. -/
theorem firstFault_of_validate {e : OptionError} (he : p.validate = .error e) :
    q.FirstFault e := by
  have hcoordinates := coordinates_of_complete h
  have hfit {list : PerCoordinate} (hlist : ¬ p.Mismatches list) : q.Fits list :=
    (fits_iff h list).mpr (Parameters.not_mismatches_iff.mp hlist)
  obtain ⟨list, ⟨hlist, front, rest, hall, hfront⟩, rfl⟩ | ⟨⟨hall, hfew⟩, rfl⟩ :=
    Parameters.validate_eq_error_cases he
  · obtain ⟨hentries, hsize⟩ := hlist
    have hgives : ∃ value, q.Gives list value := by
      by_contra hnot
      exact hentries ((count_of_complete h list).2 (not_exists.mp hnot))
    obtain ⟨value, hvalue⟩ := hgives
    have hcount := (count_of_complete h list).1 value hvalue
    rw [hcount, hcoordinates]
    refine .size hvalue (by omega) fun earlier hearlier => ?_
    exact hfit (hfront earlier (mem_front_of_mem_takeWhile hall hearlier))
  · refine .few (fun list => hfit (hall list)) fun hmem => ?_
    have hpos := List.count_pos_iff.mpr hmem
    omega

/-- A query shows one first fault at most. -/
theorem FirstFault.unique {e e' : OptionError} (he : q.FirstFault e) (he' : q.FirstFault e') :
    e = e' := by
  cases he with
  | @size list value hgives hne hearlier =>
    cases he' with
    | @size list' value' hgives' hne' hearlier' =>
      -- of two lists one is checked earlier, and it fits because of the other
      obtain rfl | hbefore | hbefore := eq_or_before list list'
      · have hcount := (count_of_complete h list).1 value hgives
        rw [← hcount, (count_of_complete h list).1 value' hgives']
      · exact absurd (hearlier' list hbefore value hgives) hne
      · exact absurd (hearlier list' hbefore value' hgives') hne'
    | few hfits _ => exact absurd (hfits list value hgives) hne
  | few hfits _ =>
    cases he' with
    | @size list' value' hgives' hne' _ => exact absurd (hfits list' value' hgives') hne'
    | few _ _ => rfl

end Query.Parts

namespace Service

/-! ## Answers -/

/-- A query that is read to its end reaches the engine exactly where there is a semicolon
between its coordinates and each list that it gives has as many as they have. Any other
such query is answered by its first fault. -/
theorem run_by_semicolons (engine : Engine) (elapsed offset : Nat) {q : Query.Parts}
    {query : String} (hquery : query.toList = q.text) {p : Parameters}
    (hparse : (Query.parser.parse query).value = .ok (some p, query.utf8ByteSize)) :
    let service : Service := { engine }
    (∀ list, (∀ value, q.Gives list value → p.count list = value.count ';' + 1) ∧
      ((∀ value, ¬ q.Gives list value) → p.count list = 0)) ∧
    (';' ∈ q.list → (∀ list, q.Fits list) →
      service.AsksOnce elapsed offset query p
        (if p.format = some .flatbuffers then .buffer [] else .document ⟨[]⟩)) ∧
    (¬ (';' ∈ q.list ∧ ∀ list, q.Fits list) →
      service.NeverAsks elapsed offset query ∧ ∃ e, q.FirstFault e) ∧
    ∀ e, q.FirstFault e →
      (service.run elapsed offset query).value = .ok (.error, .document
        ⟨[("code", .string "InvalidOptions"), ("message", .string e.message)]⟩) := by
  intro service
  have hread : Query.read q.text = .complete p := by
    rw [← hquery]
    exact Query.parse_eq_whole_iff_read.mp hparse
  have hagree := Query.Parts.agree_iff hread
  refine ⟨Query.Parts.count_of_complete hread, fun hsemicolon hfits engine => ?_,
    fun hnot => ?_, fun e he => ?_⟩
  · rw [run_of_agree { service with engine } elapsed offset hparse (hagree.mpr ⟨hsemicolon, hfits⟩),
      dispatch_eq { service with engine } elapsed p rfl, freshContainer_outputFormat,
      List.append_assoc]
  · obtain ⟨e, he⟩ := Parameters.exists_validate_eq_error (mt hagree.mp hnot)
    refine ⟨fun engine => ?_, e, Query.Parts.firstFault_of_validate hread he⟩
    rw [run_of_error { service with engine } elapsed offset hparse he,
      run_of_error service elapsed offset hparse he]
  · have hnot : ¬ p.Agree := fun hall => he.not_fits (hagree.mp hall)
    obtain ⟨e', he'⟩ := Parameters.exists_validate_eq_error hnot
    cases Query.Parts.FirstFault.unique hread he (Query.Parts.firstFault_of_validate hread he')
    rw [run_of_error service elapsed offset hparse he']
    rfl

/-- An empty value is one open entry, which does not fit two coordinates. It is reported
behind the hints, although it comes first in the query. -/
theorem run_by_semicolons_emptyBearings :
    (({ engine := { route := fun _ _ => pure (.error ⟨"no map"⟩) } } : Service).run 5 10
        "1,1;2,2?bearings=&hints=a;b").value =
      .ok (.error, .document ⟨[("code", .string "InvalidOptions"), ("message", .string
        "Number of elements in bearings size 1 does not match coordinate size 2")]⟩) := by
  let engine : Engine := { route := fun _ _ => pure (.error ⟨"no map"⟩) }
  let q : Query.Parts :=
    { layout := .bare
      list := "1,1;2,2".toList
      options := some "bearings=&hints=a;b".toList
      opens := fun _ => by decide
      ends := by decide }
  let p : Parameters :=
    { coordinates := [⟨1.0, 1.0⟩, ⟨2.0, 2.0⟩], hints := [some "a", some "b"], bearings := [none] }
  have hparse : (Query.parser.parse "1,1;2,2?bearings=&hints=a;b").value =
      .ok (some p, "1,1;2,2?bearings=&hints=a;b".utf8ByteSize) := rfl
  have hread : Query.read q.text = .complete p := rfl
  have hearlier : ∀ list ∈ Query.Parts.before .bearings, q.Fits list := by
    intro list hlist
    cases List.mem_singleton.mp hlist
    exact (Query.Parts.fits_iff hread .hints).mpr (.inr rfl)
  have hgives : q.Gives .bearings [] := by
    unfold Query.Parts.Gives
    decide
  have hfault : q.FirstFault (.sizeMismatch .bearings 1 2) := .size hgives (by decide) hearlier
  have hmessage : (OptionError.sizeMismatch .bearings 1 2).message =
      "Number of elements in bearings size 1 does not match coordinate size 2" := by decide
  rw [← hmessage]
  exact (run_by_semicolons engine 5 10 rfl hparse).2.2.2 _ hfault

end Service

end RoutingGateway
