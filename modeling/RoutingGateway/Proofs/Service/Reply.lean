/-
What a service replies to a query.

A query that is not read to its end is malformed, and the reply tells the place
(`run_of_not_complete`). To a query that is read to its end the reply depends on
the parameters that were read and on the engine's time, and on nothing else: not
on the spelling of the query nor on its place in the target (`run_of_whole`). The
time shows in one field of a document. Two runs over the same parameters
therefore come to the same outcome (`SameOutcome`), whenever they take place.

Queries that give the same options in another order are read as the same
parameters, so this is what `run_withPairs_of_perm` says of them.
-/
import RoutingGateway.Proofs.Query.Order
import RoutingGateway.Proofs.Service.Pipeline

namespace RoutingGateway

/-! ## Answers that differ in their time -/

/-- The answers are the same, or they are documents and the same but for the time they
tell. -/
def Container.SameButTime (a b : Container) : Prop :=
  a = b ∨ ∃ (doc : Document) (elapsed elapsed' : Nat),
    a = .document (doc.insert Service.durationField (.int elapsed)) ∧
      b = .document (doc.insert Service.durationField (.int elapsed'))

namespace Service

/-- Two runs end in the same way: both give up for the same reason, or both answer
with the same status and the same but for the time. -/
inductive SameOutcome : Except Panic (Status × Container) → Except Panic (Status × Container) → Prop
  | panicked (panic : Panic) : SameOutcome (.error panic) (.error panic)
  | answered (status : Status) {a b : Container} :
      a.SameButTime b → SameOutcome (.ok (status, a)) (.ok (status, b))

theorem timed_sameOutcome (elapsed elapsed' : Nat) (call : Except Panic (Status × Container)) :
    SameOutcome (timed elapsed call) (timed elapsed' call) := by
  cases call with
  | error panic => exact .panicked panic
  | ok answer =>
    obtain ⟨status, container⟩ := answer
    cases container with
    | document doc => exact .answered status (.inr ⟨doc, _, _, rfl, rfl⟩)
    | buffer bytes => exact .answered status (.inl rfl)

/-! ## The reply to parameters -/

/-- What a service returns for parameters that were read: their first fault, or what the
engine makes of them. -/
def reply (service : Service) (elapsed : Nat) (p : Parameters) :
    Except Panic (Status × Container) :=
  match p.validate with
  | .error e => .ok (.error, .error invalidOptions e.message)
  | .ok () => timed elapsed (service.engine.route p (freshContainer p.outputFormat)).value

theorem reply_of_mismatch (service : Service) (elapsed : Nat) {p : Parameters}
    {list : PerCoordinate} (h : p.mismatch? = some list) :
    service.reply elapsed p = .ok (.error, .error invalidOptions
      (OptionError.sizeMismatch list (p.count list) p.coordinates.length).message) := by
  simp only [reply, Parameters.validate, h]

theorem reply_sameOutcome (service : Service) (elapsed elapsed' : Nat) (p : Parameters) :
    SameOutcome (service.reply elapsed p) (service.reply elapsed' p) := by
  unfold reply
  cases p.validate with
  | error e => exact .answered .error (.inl rfl)
  | ok _ => exact timed_sameOutcome elapsed elapsed' _

/-- A query that is read to its end gets the reply to its parameters, however it is
spelled and wherever it stands. -/
theorem run_of_whole (service : Service) (elapsed offset : Nat) {query : String} {p : Parameters}
    (hparse : (service.parser.parse query).value = .ok (some p, query.utf8ByteSize)) :
    (service.run elapsed offset query).value = service.reply elapsed p := by
  cases hvalidate : p.validate with
  | error e => simp only [run_of_error service elapsed offset hparse hvalidate, reply, hvalidate]
  | ok _ =>
    have hagree : p.Agree := p.validate_eq_ok_iff_agree.mp hvalidate
    simp only [run_of_agree service elapsed offset hparse hagree,
      dispatch_eq service elapsed p rfl, reply, hvalidate]

/-- A query that is not read to its end is malformed, close to the place where its reading
ends. -/
theorem run_of_not_complete {service : Service} (hparser : service.parser = Query.parser)
    (elapsed offset : Nat) {query : String}
    (h : ∀ p, Query.read query.toList ≠ .complete p) :
    (service.run elapsed offset query).value = .ok (.error, .error invalidQuery
      ("Query string malformed close to position " ++
        toString (offset + (Query.read query.toList).stop query.toList))) := by
  have hparse : (service.parser.parse query).value =
      .ok ((Query.read query.toList).parameters, (Query.read query.toList).stop query.toList) := by
    rw [hparser, Query.parse_of_read rfl]
  have hstop : (Query.read query.toList).parameters = none ∨
      (Query.read query.toList).stop query.toList ≠ query.utf8ByteSize := by
    cases hparameters : (Query.read query.toList).parameters with
    | none => exact .inl rfl
    | some p =>
      refine .inr fun hwhole => h p (Query.parse_eq_whole_iff_read.mp ?_)
      rw [← hparser, hparse, hparameters, hwhole]
  rw [run_of_malformed service elapsed offset hparse hstop]

/-- A run comes to the same outcome whenever it takes place. -/
theorem run_sameOutcome (service : Service) (elapsed elapsed' offset : Nat) (query : String) :
    SameOutcome (service.run elapsed offset query).value
      (service.run elapsed' offset query).value := by
  cases hparse : (service.parser.parse query).value with
  | error panic =>
    have hrun (time : Nat) : (service.run time offset query).value = .error panic := by
      rw [run, Logged.value_bind, hparse]
      rfl
    rw [hrun, hrun]
    exact .panicked panic
  | ok parsed =>
    obtain ⟨parameters, stop⟩ := parsed
    by_cases hwhole : ∃ p, parameters = some p ∧ stop = query.utf8ByteSize
    · obtain ⟨p, rfl, rfl⟩ := hwhole
      rw [run_of_whole service elapsed offset hparse, run_of_whole service elapsed' offset hparse]
      exact service.reply_sameOutcome elapsed elapsed' p
    · have hmalformed : parameters = none ∨ stop ≠ query.utf8ByteSize := by
        cases parameters with
        | none => exact .inl rfl
        | some p => exact .inr fun hstop => hwhole ⟨p, rfl, hstop⟩
      rw [run_of_malformed service elapsed offset hparse hmalformed,
        run_of_malformed service elapsed' offset hparse hmalformed]
      exact .answered .error (.inl rfl)

/-! ## The order of the options -/

/-- A query that is read to its end is read to its end in every order of its pairs, as the
same parameters, and all its runs come to the same outcome. Where lists do not fit the
coordinates, all of them name the same list. (Every query has its parts, by
`Query.exists_parts`.) -/
theorem run_withPairs_of_perm {q : Query.Parts} {pairs : List (List Char)}
    (hperm : q.pairs.Perm pairs) {query query' : String} (hquery : query.toList = q.text)
    (hquery' : query'.toList = (q.withPairs pairs).text) {p : Parameters}
    (hparse : (Query.parser.parse query).value = .ok (some p, query.utf8ByteSize)) :
    (Query.parser.parse query').value = .ok (some p, query'.utf8ByteSize) ∧
      ∀ (engine : Engine) (elapsed elapsed' offset offset' : Nat),
        SameOutcome (({ engine } : Service).run elapsed offset query).value
            (({ engine } : Service).run elapsed' offset' query').value ∧
          ∀ list, p.mismatch? = some list →
            (({ engine } : Service).run elapsed offset query).value =
              (({ engine } : Service).run elapsed' offset' query').value ∧
            (({ engine } : Service).run elapsed offset query).value =
              .ok (.error, .error invalidOptions (OptionError.sizeMismatch list (p.count list)
                p.coordinates.length).message) := by
  have hread : Query.read q.text = .complete p := hquery ▸ Query.parse_eq_whole_iff_read.mp hparse
  have hparse' : (Query.parser.parse query').value = .ok (some p, query'.utf8ByteSize) :=
    Query.parse_eq_whole_iff_read.mpr (hquery' ▸ Query.read_withPairs_of_perm hperm hread)
  refine ⟨hparse', fun engine elapsed elapsed' offset offset' => ?_⟩
  rw [run_of_whole { engine } elapsed offset hparse, run_of_whole { engine } elapsed' offset' hparse']
  refine ⟨reply_sameOutcome { engine } elapsed elapsed' p, fun list hlist => ?_⟩
  rw [reply_of_mismatch { engine } elapsed hlist, reply_of_mismatch { engine } elapsed' hlist]
  exact ⟨rfl, rfl⟩

/-- Neither the hints nor the bearings fit the coordinates. In either order it is the hints
that are named. -/
theorem run_withPairs_of_perm_hints :
    let service : Service := { engine := { route := fun _ _ => pure (.error ⟨"no map"⟩) } }
    let refusal : Container := .error invalidOptions
      "Number of elements in hints size 1 does not match coordinate size 2"
    (service.run 5 10 "1,1;2,2?hints=a&bearings=1,2").value = .ok (.error, refusal) ∧
      (service.run 7 10 "1,1;2,2?bearings=1,2&hints=a").value = .ok (.error, refusal) := by
  intro service refusal
  let q : Query.Parts :=
    { layout := .bare
      list := "1,1;2,2".toList
      options := some "hints=a&bearings=1,2".toList
      opens := by decide
      ends := by decide }
  have hperm : q.pairs.Perm ["bearings=1,2".toList, "hints=a".toList] := by decide
  let p : Parameters :=
    { coordinates := [⟨1.0, 1.0⟩, ⟨2.0, 2.0⟩], hints := [some "a"], bearings := [some ⟨1, 2⟩] }
  have hparse : (Query.parser.parse "1,1;2,2?hints=a&bearings=1,2").value =
      .ok (some p, "1,1;2,2?hints=a&bearings=1,2".utf8ByteSize) := rfl
  have hmessage : "Number of elements in hints size 1 does not match coordinate size 2" =
      (OptionError.sizeMismatch .hints 1 2).message := by decide
  have hrefusal : refusal = .error invalidOptions (OptionError.sizeMismatch .hints 1 2).message :=
    congrArg (Container.error invalidOptions) hmessage
  obtain ⟨-, hruns⟩ := run_withPairs_of_perm hperm (by decide)
    (show "1,1;2,2?bearings=1,2&hints=a".toList = _ by decide) hparse
  obtain ⟨hsame, hrun⟩ := (hruns service.engine 5 7 10 10).2 .hints rfl
  have hfirst : (service.run 5 10 "1,1;2,2?hints=a&bearings=1,2").value = .ok (.error, refusal) :=
    hrefusal ▸ hrun
  exact ⟨hfirst, hsame ▸ hfirst⟩

end Service

end RoutingGateway
