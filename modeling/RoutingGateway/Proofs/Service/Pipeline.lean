/-
The way of a route query through its service.

A query is parsed, its parameters are checked, and only then the engine is
asked. What an engine is asked shows in a run: the log of a run holds the log
of each call of the engine, and an engine may log whatever it likes. So a run
that is one and the same for all engines asks none (`NeverAsks`), and a run
whose log holds the log of one call, for all engines, asks for this call and no
other (`AsksOnce`). `run_gated` tells the runs that ask from those that do not.
-/
import RoutingGateway.Proofs.Validation
import RoutingGateway.Service

namespace RoutingGateway

theorem Logged.bind_eq {α β : Type} (first : Logged α) (next : α → Logged β) :
    first >>= next =
      { value := (next first.value).value
        events := first.events ++ (next first.value).events } := rfl

namespace Service

/-! ## A call of the engine -/

/-- The engine's answer with the time it took; a panic is passed on. -/
def timed (elapsed : Nat) :
    Except Panic (Status × Container) → Except Panic (Status × Container)
  | .error panic => .error panic
  | .ok (status, container) =>
    .ok (status, container.insert durationField (.int (min elapsed maxElapsed : Nat)))

/-- What a service logs behind the engine's answer. -/
def closingEvents (engine : String) (coordinates elapsed : Nat) :
    Except Panic (Status × Container) → List Event
  | .error _ => []
  | .ok (status, container) =>
    (if container.isBuffer then [.durationSkipped] else []) ++
      [.dispatched engine status coordinates (min elapsed maxElapsed)]

theorem annotate_eq (elapsed : Nat) (container : Container) :
    annotate elapsed container =
      { value := container.insert durationField (.int elapsed)
        events := if container.isBuffer then [.durationSkipped] else [] } := by
  cases container <;> rfl

theorem dispatch_eq (service : Service) (elapsed : Nat) (p : Parameters) {call}
    (hcall : service.engine.route p (freshContainer p.outputFormat) = call) :
    service.dispatch elapsed p =
      { value := timed elapsed call.value
        events := call.events ++
          closingEvents service.engine.name p.coordinates.length elapsed call.value } := by
  obtain ⟨value, events⟩ := call
  rw [dispatch, Logged.bind_eq, hcall]
  cases value with
  | error panic => rfl
  | ok answer =>
    obtain ⟨status, container⟩ := answer
    simp [timed, closingEvents, annotate_eq]

/-- The container is a buffer exactly where the request asks for one. -/
theorem freshContainer_outputFormat (p : Parameters) :
    freshContainer p.outputFormat =
      if p.format = some .flatbuffers then .buffer [] else .document ⟨[]⟩ := by
  cases hformat : p.format with
  | none => simp [Parameters.outputFormat, hformat, freshContainer, Container.newDocument, Document.empty]
  | some format =>
    cases format <;>
      simp [Parameters.outputFormat, hformat, freshContainer, Container.newDocument,
        Container.newBuffer, Document.empty]

/-! ## Stages -/

theorem accepted?_eq_some_iff {length stop : Nat} {parameters : Option Parameters}
    {p : Parameters} :
    accepted? length (parameters, stop) = some p ↔ parameters = some p ∧ stop = length := by
  cases parameters with
  | none => simp [accepted?]
  | some q => by_cases h : stop = length <;> simp [accepted?, h]

variable (service : Service) (elapsed offset : Nat) {query : String}
  {parameters : Option Parameters} {stop : Nat}

theorem run_of_malformed (hparse : (service.parser.parse query).value = .ok (parameters, stop))
    (h : parameters = none ∨ stop ≠ query.utf8ByteSize) :
    service.run elapsed offset query =
      { value := .ok (.error, .error invalidQuery
          ("Query string malformed close to position " ++ toString (offset + stop)))
        events := (service.parser.parse query).events ++ [.malformedQuery (offset + stop)] } := by
  have hnone : accepted? query.utf8ByteSize (parameters, stop) = none := by
    refine Option.eq_none_iff_forall_ne_some.mpr fun p hp => ?_
    obtain ⟨hp, hstop⟩ := accepted?_eq_some_iff.mp hp
    cases h with
    | inl hnone => cases hnone.symm.trans hp
    | inr hne => exact hne hstop
  rw [run, Logged.bind_eq, hparse]
  simp only [hnone]
  rfl

theorem run_of_error {p : Parameters} {e : OptionError}
    (hparse : (service.parser.parse query).value = .ok (some p, query.utf8ByteSize))
    (he : p.validate = .error e) :
    service.run elapsed offset query =
      { value := .ok (.error, .error invalidOptions e.message)
        events := (service.parser.parse query).events ++ [.invalidOptions e] } := by
  rw [run, Logged.bind_eq, hparse]
  simp only [accepted?_eq_some_iff.mpr ⟨rfl, rfl⟩, he]
  rfl

theorem run_of_agree {p : Parameters}
    (hparse : (service.parser.parse query).value = .ok (some p, query.utf8ByteSize))
    (hp : p.Agree) :
    service.run elapsed offset query =
      { value := (service.dispatch elapsed p).value
        events := (service.parser.parse query).events ++ (service.dispatch elapsed p).events } := by
  rw [run, Logged.bind_eq, hparse]
  simp only [accepted?_eq_some_iff.mpr ⟨rfl, rfl⟩, (p.validate_eq_ok_iff_agree).mpr hp]

/-! ## Which runs ask the engine -/

/-- Whatever its engine is, the service does the same: it does not ask it. -/
def NeverAsks (service : Service) (elapsed offset : Nat) (query : String) : Prop :=
  ∀ engine, { service with engine }.run elapsed offset query = service.run elapsed offset query

/-- Whatever its engine is, the service hands it these parameters and this container,
once, and answers what it answers. -/
def AsksOnce (service : Service) (elapsed offset : Nat) (query : String) (p : Parameters)
    (container : Container) : Prop :=
  ∀ engine : Engine, { service with engine }.run elapsed offset query =
    { value := timed elapsed (engine.route p container).value
      events := (service.parser.parse query).events ++ (engine.route p container).events ++
        closingEvents engine.name p.coordinates.length elapsed (engine.route p container).value }

/-- The engine is asked exactly where the query is read to its end and the parameters
agree. It gets these parameters and an empty container of the wanted kind. All
other queries are answered by a document of two fields, whatever they want. -/
theorem run_gated (service : Service) (elapsed offset : Nat) (query : String)
    {parameters : Option Parameters} {stop : Nat}
    (hparse : (service.parser.parse query).value = .ok (parameters, stop)) :
    (∀ p, parameters = some p → stop = query.utf8ByteSize → p.Agree →
      service.AsksOnce elapsed offset query p
        (if p.format = some .flatbuffers then .buffer [] else .document ⟨[]⟩)) ∧
    (∀ p, parameters = some p → stop = query.utf8ByteSize → ¬ p.Agree →
      service.NeverAsks elapsed offset query ∧ ∃ e, p.validate = .error e ∧
        (service.run elapsed offset query).value = .ok (.error, .document
          ⟨[("code", .string "InvalidOptions"), ("message", .string e.message)]⟩)) ∧
    (parameters = none ∨ stop ≠ query.utf8ByteSize →
      service.NeverAsks elapsed offset query ∧
        (service.run elapsed offset query).value = .ok (.error, .document
          ⟨[("code", .string "InvalidQuery"),
            ("message", .string ("Query string malformed close to position " ++
              toString (offset + stop)))]⟩)) := by
  refine ⟨fun p hp hstop hagree engine => ?_, fun p hp hstop hagree => ?_, fun h => ?_⟩
  · rw [hp, hstop] at hparse
    rw [run_of_agree { service with engine } elapsed offset hparse hagree,
      dispatch_eq { service with engine } elapsed p rfl, freshContainer_outputFormat,
      List.append_assoc]
  · rw [hp, hstop] at hparse
    obtain ⟨e, he⟩ := Parameters.exists_validate_eq_error hagree
    refine ⟨fun engine => ?_, e, he, ?_⟩
    · rw [run_of_error { service with engine } elapsed offset hparse he,
        run_of_error service elapsed offset hparse he]
    · rw [run_of_error service elapsed offset hparse he]
      rfl
  · refine ⟨fun engine => ?_, ?_⟩
    · rw [run_of_malformed { service with engine } elapsed offset hparse h,
        run_of_malformed service elapsed offset hparse h]
    · rw [run_of_malformed service elapsed offset hparse h]
      rfl

/-- A buffer is asked for, but the lists do not fit the coordinates: the answer is a
document, and the engine, which would have panicked, is not asked. -/
theorem run_gated_mismatch :
    (({ engine := { route := fun _ _ => pure (.error ⟨"no map"⟩) } } : Service).run 5 10
        "1,1;2,2?hints=a&format=flatbuffers").value =
      .ok (.error, .document ⟨[("code", .string "InvalidOptions"), ("message", .string
        "Number of elements in hints size 1 does not match coordinate size 2")]⟩) := by
  let service : Service := { engine := { route := fun _ _ => pure (.error ⟨"no map"⟩) } }
  let p : Parameters :=
    { coordinates := [⟨1.0, 1.0⟩, ⟨2.0, 2.0⟩], hints := [some "a"], format := some .flatbuffers }
  have hparse : (service.parser.parse "1,1;2,2?hints=a&format=flatbuffers").value =
      .ok (some p, "1,1;2,2?hints=a&format=flatbuffers".utf8ByteSize) := rfl
  have hagree : ¬ p.Agree := fun h => absurd (h.2 .hints) (by decide)
  obtain ⟨-, e, he, hrun⟩ := (run_gated service 5 10 _ hparse).2.1 p rfl rfl hagree
  cases he
  have hmessage : (OptionError.sizeMismatch .hints 1 2).message =
      "Number of elements in hints size 1 does not match coordinate size 2" := by decide
  rw [← hmessage]
  exact hrun

end Service

end RoutingGateway
