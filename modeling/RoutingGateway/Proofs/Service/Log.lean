/-
What a service logs of its answer.

A run has three phases, and one of them gives the answer: the query is read, its parameters are
checked, and the engine is asked. Each phase that answers leaves entries of its own in the log
(`Tells`), and nothing else is logged on the way, so the last entry tells the phase
(`Tells.last_message`). What the entries say is what the client is told: the same position, the
same violation, the same status.

The parser of this library logs why it stops, and the service logs the rest. An engine may log
too; here it is one that does not (`Engine.Quiet`), so the whole log of the run is told.
-/
import RoutingGateway.Proofs.Query.Entries
import RoutingGateway.Proofs.Service.Pipeline

namespace RoutingGateway

open RoutingGateway.Query RoutingGateway.Text

/-! ## Entries -/

/-- What a log shows of an event, its target apart. -/
structure Event.Entry where
  level : Level
  message : String
  fields : List (String × Json)

def Event.entry (event : Event) : Event.Entry :=
  { level := event.level, message := event.message, fields := event.fields }

/-- The engine answers every call, and logs nothing. -/
def Engine.Quiet (engine : Engine) : Prop :=
  ∀ p container, ∃ answer, engine.route p container = pure (.ok answer)

/-- The query is read to its end, as these parameters. -/
def Query.ReadsAs (query : String) (p : Parameters) : Prop :=
  (Query.parser.parse query).value = .ok (some p, query.utf8ByteSize)

theorem Query.ReadsAs.unique {query : String} {p p' : Parameters} (h : ReadsAs query p)
    (h' : ReadsAs query p') : p = p' := by
  have hsame := h.symm.trans h'
  injection hsame with hsame
  exact Option.some.inj (Prod.mk.inj hsame).1

/-- A query that is read to its end leaves no entry of the parser. -/
theorem Query.ReadsAs.parse_eq {query : String} {p : Parameters} (h : ReadsAs query p) :
    Query.parser.parse query =
      { value := .ok (some p, query.utf8ByteSize), events := [] } := by
  obtain ⟨s, hs, rfl⟩ := (parse_eq_whole_iff query p).mp h
  exact parse_of_spells hs

/-- There is one coordinate more than there are semicolons between them. -/
theorem Query.ReadsAs.length_coordinates {query : String} {p : Parameters} (h : ReadsAs query p) :
    p.coordinates.length = (coordinateText query.toList).count ';' + 1 := by
  obtain ⟨q, hq⟩ := exists_parts query.toList
  have hread : read q.text = .complete p := hq ▸ parse_eq_whole_iff_read.mp h
  rw [← hq, q.coordinateText_text, Parts.coordinates_of_complete hread]

namespace Service

/-! ## Phases -/

/-- The phases of a run. -/
inductive Phase where
  | reading
  | checking
  | routing
  deriving DecidableEq

/-- The phase gives the answer to the query: it is the first that does not let the query pass, or
it is the last. -/
inductive Answers (query : String) : Phase → Prop
  | reading : (∀ p, ¬ ReadsAs query p) → Answers query .reading
  | checking {p : Parameters} : ReadsAs query p → ¬ p.Agree → Answers query .checking
  | routing {p : Parameters} : ReadsAs query p → p.Agree → Answers query .routing

theorem Answers.unique {query : String} {phase phase' : Phase} (h : Answers query phase)
    (h' : Answers query phase') : phase = phase' := by
  cases h with
  | reading hnot =>
    cases h' with
    | reading _ => rfl
    | checking hread _ => exact absurd hread (hnot _)
    | routing hread _ => exact absurd hread (hnot _)
  | checking hread hdiffer =>
    cases h' with
    | reading hnot => exact absurd hread (hnot _)
    | checking _ _ => rfl
    | routing hread' hagree => exact absurd (hread.unique hread' ▸ hagree) hdiffer
  | routing hread hagree =>
    cases h' with
    | reading hnot => exact absurd hread (hnot _)
    | checking hread' hdiffer => exact absurd (hread.unique hread' ▸ hagree) hdiffer
    | routing _ _ => rfl

/-! ## What the log tells -/

/-- The answer to a query that is malformed at this position. -/
def malformedAnswer (position : Nat) : Status × Container :=
  (.error, .document ⟨[("code", .string "InvalidQuery"),
    ("message", .string ("Query string malformed close to position " ++ toString position))]⟩)

/-- The entry for a query that is malformed at this position. -/
def malformedEntry (position : Nat) : Event.Entry :=
  { level := .debug, message := "malformed route query", fields := [("position", .int position)] }

/-- The entries tell this answer of the phase to the query at byte `offset` of the target. -/
inductive Tells (engine : String) (elapsed offset : Nat) (query : String) :
    Phase → List Event.Entry → Status × Container → Prop
  /-- There are no good coordinates: the text in their place, and the place of the query. -/
  | noCoordinates : (∀ cs, ¬ CoordinatesText (coordinateText query.toList) cs) →
      Tells engine elapsed offset query .reading
        [{ level := .trace
           message := "query does not start with coordinates"
           fields := [("coordinates", .string (String.ofList (coordinateText query.toList)))] },
          malformedEntry (offset + 0)]
        (malformedAnswer (offset + 0))
  /-- A pair is rejected: the place in front of it in the query, and in the target. -/
  | stopped {s : Sentence} {head bad tail : List Char} {e : PairError} :
      FirstRejected query.toList s head bad tail e →
      Tells engine elapsed offset query .reading
        [{ level := .trace
           message := "query parse stopped"
           fields := [("offset", .int (width head)), ("error", .string e.message)] },
          malformedEntry (offset + width head)]
        (malformedAnswer (offset + width head))
  /-- The parameters do not agree: the violation that the answer words. -/
  | violated {p : Parameters} {e : OptionError} : ReadsAs query p → p.validate = .error e →
      Tells engine elapsed offset query .checking
        [{ level := .debug
           message := "invalid route options"
           fields :=
             [("parameter", .string (quotedOption e.parameter?)), ("code", .string e.kind)] }]
        (.error, .document ⟨[("code", .string "InvalidOptions"), ("message", .string e.message)]⟩)
  /-- The engine was asked: its status, the number of coordinates, and whether the time is told. -/
  | routed (status : Status) (container : Container) :
      Tells engine elapsed offset query .routing
        ((if container.isBuffer then
            [{ level := .trace
               message := "binary result, duration not annotated"
               fields := [] }]
          else []) ++
          [{ level := .debug
             message := "route dispatched"
             fields :=
               [("engine", .string engine), ("status", .string status.name),
                ("coordinates", .int ((coordinateText query.toList).count ';' + 1 : Nat)),
                ("duration_nanos", .int (min elapsed (UInt64.size - 1) : Nat))] }])
        (status, container)

/-- The message of the last entry that a phase leaves. -/
def Phase.lastMessage : Phase → String
  | .reading => "malformed route query"
  | .checking => "invalid route options"
  | .routing => "route dispatched"

theorem Phase.lastMessage_inj {a b : Phase} (h : a.lastMessage = b.lastMessage) : a = b := by
  revert h
  cases a <;> cases b <;> decide

theorem Tells.last_message {engine : String} {elapsed offset : Nat} {query : String}
    {phase : Phase} {entries : List Event.Entry} {answer : Status × Container}
    (h : Tells engine elapsed offset query phase entries answer) :
    entries.getLast?.map Event.Entry.message = some phase.lastMessage := by
  cases h with
  | noCoordinates _ => rfl
  | stopped _ => rfl
  | violated _ _ => rfl
  | routed status container => rw [List.getLast?_concat]; rfl

theorem Tells.unique {engine : String} {elapsed offset : Nat} {query : String}
    {phase phase' : Phase} {entries : List Event.Entry} {answer answer' : Status × Container}
    (h : Tells engine elapsed offset query phase entries answer)
    (h' : Tells engine elapsed offset query phase' entries answer') : phase = phase' :=
  Phase.lastMessage_inj (Option.some.inj (h.last_message.symm.trans h'.last_message))

/-! ## Runs -/

/-- The run ends in an answer, and its log tells this answer as one of the phase. -/
def LogTells (service : Service) (elapsed offset : Nat) (query : String) (phase : Phase) : Prop :=
  ∃ answer, (service.run elapsed offset query).value = .ok answer ∧
    Tells service.engine.name elapsed offset query phase
      ((service.run elapsed offset query).events.map Event.entry) answer

section

variable {service : Service} (hparser : service.parser = Query.parser) (elapsed offset : Nat)
  {query : String}

include hparser

theorem logTells_of_not_read (h : ∀ p, ¬ ReadsAs query p) :
    service.LogTells elapsed offset query .reading := by
  rcases query_cases query.toList with hnone | ⟨s, hs⟩ | ⟨s, head, bad, tail, e, hfirst⟩
  · have hparse := hparser ▸ parse_of_noCoordinates hnone
    have hrun := service.run_of_malformed elapsed offset (congrArg Logged.value hparse) (.inl rfl)
    refine ⟨malformedAnswer (offset + 0), congrArg Logged.value hrun, ?_⟩
    rw [hrun, hparse]
    exact .noCoordinates hnone
  · exact absurd (congrArg Logged.value (parse_of_spells hs)) (h _)
  · have hparse := hparser ▸ parse_of_firstRejected hfirst
    have hstop : width head ≠ query.utf8ByteSize := Nat.ne_of_lt hfirst.width_head_lt
    have hrun := service.run_of_malformed elapsed offset (congrArg Logged.value hparse) (.inr hstop)
    refine ⟨malformedAnswer (offset + width head), congrArg Logged.value hrun, ?_⟩
    rw [hrun, hparse]
    exact .stopped hfirst

theorem logTells_of_not_agree {p : Parameters} (hread : ReadsAs query p) (h : ¬ p.Agree) :
    service.LogTells elapsed offset query .checking := by
  obtain ⟨e, he⟩ := Parameters.exists_validate_eq_error h
  have hparse := hparser ▸ hread.parse_eq
  have hrun := service.run_of_error elapsed offset (congrArg Logged.value hparse) he
  refine ⟨(.error, .error invalidOptions e.message), congrArg Logged.value hrun, ?_⟩
  rw [hrun, hparse]
  exact .violated hread he

theorem logTells_of_agree (hquiet : service.engine.Quiet) {p : Parameters} (hread : ReadsAs query p)
    (h : p.Agree) :
    service.LogTells elapsed offset query .routing := by
  have hparse := hparser ▸ hread.parse_eq
  obtain ⟨⟨status, left⟩, hcall⟩ := hquiet p (freshContainer p.outputFormat)
  have hrun := service.run_of_agree elapsed offset (congrArg Logged.value hparse) h
  rw [dispatch_eq service elapsed p hcall, hparse] at hrun
  let container := left.insert durationField (.int (min elapsed maxElapsed : Nat))
  refine ⟨(status, container), congrArg Logged.value hrun, ?_⟩
  -- the time makes no buffer of a document, so the entry goes with what the engine left
  have htells : Tells service.engine.name elapsed offset query .routing _ (status, container) :=
    .routed status container
  rw [← hread.length_coordinates, Container.isBuffer_insert] at htells
  rw [hrun]
  cases left with
  | document doc => exact htells
  | buffer bytes => exact htells

end

/-- A run with a quiet engine ends in an answer, and its log tells this answer as one phase would,
which is the phase that gives it. -/
theorem run_told (service : Service) (hparser : service.parser = Query.parser)
    (hquiet : service.engine.Quiet) (elapsed offset : Nat) (query : String) :
    ∃ answer, (service.run elapsed offset query).value = .ok answer ∧
      (∃! phase, Tells service.engine.name elapsed offset query phase
        ((service.run elapsed offset query).events.map Event.entry) answer) ∧
      ∀ phase, Tells service.engine.name elapsed offset query phase
        ((service.run elapsed offset query).events.map Event.entry) answer ↔
          Answers query phase := by
  have hphase : ∃ phase, Answers query phase ∧ service.LogTells elapsed offset query phase := by
    by_cases hread : ∃ p, ReadsAs query p
    · obtain ⟨p, hread⟩ := hread
      by_cases hagree : p.Agree
      · exact ⟨_, .routing hread hagree,
          logTells_of_agree hparser elapsed offset hquiet hread hagree⟩
      · exact ⟨_, .checking hread hagree, logTells_of_not_agree hparser elapsed offset hread hagree⟩
    · have hnot := not_exists.mp hread
      exact ⟨_, .reading hnot, logTells_of_not_read hparser elapsed offset hnot⟩
  obtain ⟨phase, hanswers, answer, hrun, htells⟩ := hphase
  refine ⟨answer, hrun, ⟨phase, htells, fun _ h => h.unique htells⟩, fun phase' => ⟨?_, ?_⟩⟩
  · intro h
    exact h.unique htells ▸ hanswers
  · intro h
    exact h.unique hanswers ▸ htells

/-- The engine fails, and leaves a buffer where a document is wanted. The log tells both. -/
theorem run_told_buffer :
    let engine : Engine :=
      { name := "Tiles", route := fun _ _ => pure (.ok (.error, .buffer [7])) }
    let run := ({ engine } : Service).run 5 10 "1,1;2,2"
    engine.Quiet ∧ run.value = .ok (.error, .buffer [7]) ∧
      run.events.map Event.entry =
        [{ level := .trace
           message := "binary result, duration not annotated"
           fields := [] },
          { level := .debug
            message := "route dispatched"
            fields := [("engine", .string "Tiles"), ("status", .string "Error"),
              ("coordinates", .int 2), ("duration_nanos", .int 5)] }] := by
  intro engine run
  have hquiet : engine.Quiet := fun _ _ => ⟨_, rfl⟩
  let p : Parameters := { coordinates := [⟨1.0, 1.0⟩, ⟨2.0, 2.0⟩] }
  have hread : ReadsAs "1,1;2,2" p := rfl
  have hagree : p.Agree := ⟨by decide, fun list => by cases list <;> decide⟩
  obtain ⟨answer, hrun, -, htold⟩ := run_told { engine } rfl hquiet 5 10 "1,1;2,2"
  have hbuffer : run.value = .ok (.error, .buffer [7]) := rfl
  obtain rfl : answer = (.error, .buffer [7]) := Except.ok.inj (hrun.symm.trans hbuffer)
  refine ⟨hquiet, hbuffer, ?_⟩
  have htells := (htold .routing).mpr (.routing hread hagree)
  generalize hentries : run.events.map Event.entry = entries
  change Tells _ _ _ _ _ (run.events.map Event.entry) _ at htells
  rw [hentries] at htells
  cases htells with
  | routed _ _ => rfl

end Service

end RoutingGateway
