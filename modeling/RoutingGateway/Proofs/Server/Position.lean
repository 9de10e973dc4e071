/-
Positions of malformed queries in the targets that hold them.

A service counts from the place where the text of its route query stands in
the target, and the parser from the beginning of that text. The two add up:
the position in the answer to a malformed query is the byte offset, in the
target as it was sent, of the fault (`position_of_malformed`).

Three things have to come together for it. The code of malformed queries is
given by a service alone and not by the gateway (`exists_run_of_code`). The
number in a document can be read off its bytes (`Container.encode_error_inj`).
And a target that is cut off in front of a rejected pair is again a target, for
the same service, with what is in front of the pair for its route query
(`RouteTarget.exists_truncated`).
-/
import RoutingGateway.Proofs.Json.Writer
import RoutingGateway.Proofs.Query.Parser
import RoutingGateway.Proofs.Server.Dispatch
import RoutingGateway.Proofs.Server.Target
import RoutingGateway.Proofs.Service.Pipeline

namespace RoutingGateway

open RoutingGateway.Http RoutingGateway.Path RoutingGateway.Query RoutingGateway.Text

/-! ## Beginnings of targets -/

namespace RouteTarget

/-- A beginning of a path and its query lies in the path or takes up the question
mark. -/
theorem beginning_cases {head rest front : List Char} {query : Option (List Char)}
    (h : head ++ rest = front ++ behindPath query) :
    (∃ more, front = head ++ more) ∨ ∃ after, head = front ++ '?' :: after := by
  rcases List.append_eq_append_iff.mp h with ⟨more, hfront, -⟩ | ⟨more, hhead, hbehind⟩
  · exact .inl ⟨more, hfront⟩
  · cases more with
    | nil => exact .inl ⟨[], by rw [hhead]; simp⟩
    | cons c more =>
      cases query with
      | none => cases hbehind
      | some query =>
        obtain ⟨hc, -⟩ := List.cons.inj hbehind
        rw [← hc] at hhead
        exact .inr ⟨more, hhead⟩

/-- Behind coordinates in the path the query is as the target has it. -/
theorem queryText_append_trail {r : RouteTarget} {coordinates : List Char}
    (h : r.coordinates = some coordinates) :
    r.queryText ++ r.trail = coordinates ++ behindPath r.query := by
  rcases hquery : r.query with _ | _ | ⟨c, query⟩ <;>
    simp [queryText, trail, h, hquery, behindPath]

/-- A target up to the first rejected pair is again a target, and what is left of its
query is what is in front of the pair. -/
theorem exists_truncated {r : RouteTarget} {s : Sentence} {head bad tail : List Char}
    {e : PairError} (h : FirstRejected r.queryText s head bad tail e) :
    ∃ r' : RouteTarget, r'.profile = r.profile ∧ r'.text = r.lead ++ head ∧
      r'.queryText = head := by
  cases hcoordinates : r.coordinates with
  | none =>
    cases hquery : r.query with
    | none =>
      have hnil : r.queryText = [] := by simp [queryText, hcoordinates, hquery]
      have htext := h.text
      rw [hnil] at htext
      simp at htext
    | some query =>
      have hlead : r.lead = r.path ++ ['?'] := by simp [lead, hcoordinates, hquery]
      refine ⟨{ r with query := some head }, rfl, ?_, ?_⟩
      · simp [text, path, behindPath, hlead]
      · simp [queryText, hcoordinates]
  | some coordinates =>
    have hlead : r.lead = routeStart.toList ++ (r.profile ++ ['/']) := by
      simp [lead, hcoordinates]
    have hpart := r.coordinates_part _ hcoordinates
    have hparted : head ++ (s.nextSeparator :: (bad ++ tail) ++ r.trail) =
        coordinates ++ behindPath r.query := by
      rw [← queryText_append_trail hcoordinates, h.text, List.append_assoc]
    rcases beginning_cases hparted with ⟨more, hmore⟩ | ⟨after, hhead⟩
    · have hpart' : PathPart head := by
        rw [hmore] at hpart
        simp only [PathPart, Segment, List.mem_append, not_or] at hpart
        exact ⟨⟨h.spells.ne_nil, hpart.1.2.1⟩, hpart.2.1⟩
      refine ⟨{ r with
        coordinates := some head
        query := none
        coordinates_part := fun c hc => Option.some.inj hc ▸ hpart' }, rfl, ?_, ?_⟩
      · simp [text, path, inPath, behindPath, hlead]
      · simp [queryText]
    · have hafter : after ≠ [] :=
        Sentence.Spells.behind_questionMark (hhead ▸ h.spells) hpart.2
      obtain ⟨c, after, rfl⟩ := List.exists_cons_of_ne_nil hafter
      refine ⟨{ r with query := some (c :: after) }, rfl, ?_, ?_⟩
      · simp [text, path, inPath, behindPath, hlead, hcoordinates, hhead]
      · simp [queryText, hcoordinates, hhead]

end RouteTarget

/-! ## Codes of answers -/

theorem Refusal.code_response (refusal : Refusal) : refusal.response.code = some refusal.code :=
  Container.code?_error refusal.code refusal.message

theorem Refusal.code_ne_invalidQuery (refusal : Refusal) :
    refusal.response.code ≠ some Service.invalidQuery := by
  rw [Refusal.code_response]
  cases refusal <;> simp [Refusal.code, Service.invalidQuery]

/-- The response is the document for a query that is malformed at this position. -/
structure Http.Response.Malformed (response : Response) (position : Nat) : Prop where
  code : response.code = some Service.invalidQuery
  body : response.body = (Container.error Service.invalidQuery
    ("Query string malformed close to position " ++ toString position)).encode.body

/-- The engine gives no answer with this code. -/
def Engine.NeverWrites (engine : Engine) (code : String) : Prop :=
  ∀ p status container,
    (engine.route p (Service.freshContainer p.outputFormat)).value = .ok (status, container) →
      container.code? ≠ some code

namespace Service

/-- The service reads queries by the grammar, and only the service itself gives the code
of malformed ones. -/
structure Plain (service : Service) : Prop where
  parser : service.parser = Query.parser
  engine : service.engine.NeverWrites invalidQuery

variable {service : Service} (hplain : service.Plain) (elapsed offset : Nat) {query : String}

include hplain

/-- A query that spells a sentence is not answered as a malformed one. -/
theorem Plain.code?_run_of_spells {s : Sentence} (hs : s.Spells query.toList) {status : Status}
    {container : Container}
    (h : (service.run elapsed offset query).value = .ok (status, container)) :
    container.code? ≠ some invalidQuery := by
  have hparse : (service.parser.parse query).value = .ok (some s.parameters, query.utf8ByteSize) := by
    rw [hplain.parser, parse_of_spells hs]
  by_cases hagree : s.parameters.Agree
  · rw [run_of_agree service elapsed offset hparse hagree, dispatch_eq service elapsed _ rfl] at h
    cases hroute : (service.engine.route s.parameters
        (freshContainer s.parameters.outputFormat)).value with
    | error panic =>
      simp only [hroute, timed] at h
      cases h
    | ok answer =>
      obtain ⟨status', container'⟩ := answer
      simp only [hroute, timed] at h
      cases h
      rw [Container.code?_insert (by decide)]
      exact hplain.engine _ _ _ hroute
  · obtain ⟨e, he⟩ := Parameters.exists_validate_eq_error hagree
    rw [run_of_error service elapsed offset hparse he] at h
    cases h
    rw [Container.code?_error]
    decide

theorem Plain.run_of_noCoordinates
    (h : ∀ cs, ¬ CoordinatesText (coordinateText query.toList) cs) :
    (service.run elapsed offset query).value = .ok (.error, .error invalidQuery
      ("Query string malformed close to position " ++ toString offset)) := by
  have hparse : (service.parser.parse query).value = .ok (none, 0) := by
    rw [hplain.parser, parse_of_noCoordinates h]
  rw [run_of_malformed service elapsed offset hparse (.inl rfl), Nat.add_zero]

theorem Plain.run_of_firstRejected {s : Sentence} {head bad tail : List Char} {e : PairError}
    (h : FirstRejected query.toList s head bad tail e) :
    (service.run elapsed offset query).value = .ok (.error, .error invalidQuery
      ("Query string malformed close to position " ++ toString (offset + width head))) := by
  have hparse : (service.parser.parse query).value = .ok (some s.parameters, width head) := by
    rw [hplain.parser, parse_of_firstRejected h]
  rw [run_of_malformed service elapsed offset hparse (.inr (Nat.ne_of_lt h.width_head_lt))]

end Service

/-! ## Answers -/

namespace Server

variable {server : Server} (surroundings : Surroundings)

/-- Only the run of a service gives the code of malformed queries. -/
theorem exists_run_of_code {request : Request}
    (h : (server.dispatch surroundings request).value.code = some Service.invalidQuery) :
    ∃ service offset query status container,
      server.destination request = .ok (.service service offset query) ∧
      (service.run surroundings.elapsed offset query).value = .ok (status, container) ∧
      container.code? = some Service.invalidQuery ∧
      (server.dispatch surroundings request).value.body = container.encode.body := by
  cases hdestination : server.destination request with
  | error refusal =>
    rw [dispatch_of_error surroundings hdestination] at h
    exact absurd h refusal.code_ne_invalidQuery
  | ok destination =>
    cases destination with
    | health =>
      rw [dispatch_of_health surroundings hdestination] at h
      exact absurd h (by decide)
    | service service offset query =>
      have hdispatch := dispatch_of_service surroundings hdestination
      rw [hdispatch] at h
      cases hrun : (service.run surroundings.elapsed offset query).value with
      | error panic =>
        rw [hrun] at h
        exact absurd h Refusal.engineFailed.code_ne_invalidQuery
      | ok answer =>
        obtain ⟨status, container⟩ := answer
        rw [hrun] at h hdispatch
        exact ⟨service, offset, query, status, container, rfl, hrun, h,
          congrArg Response.body hdispatch⟩

/-! ## Positions -/

/-- A target whose route query spells a sentence is not answered as a malformed one. -/
theorem code_answer_of_spells (htable : server.router.table = Router.new.table)
    (hmiddlewares : ∀ m ∈ server.middlewares, m.Transparent) (r : RouteTarget)
    (hservice : ∀ service, server.router.service? (String.ofList r.profile) = some service →
      service.Plain) {s : Sentence} (hs : s.Spells r.queryText) :
    (server.answer surroundings .get (String.ofList r.text)).value.code ≠
      some Service.invalidQuery := by
  rw [(server.answer_of_transparent surroundings hmiddlewares _ _).1]
  intro hcode
  obtain ⟨service, offset, query, status, container, hdestination, hrun, hcontainer, -⟩ :=
    exists_run_of_code surroundings hcode
  have hnames : r.Names (.ofTarget .get (String.ofList r.text)) :=
    RouteTarget.names_ofTarget (String.toList_ofList).symm
  obtain ⟨hregistered, -, hquery⟩ := service_of_names htable hnames hdestination
  have hs' : s.Spells query.toList := by
    rw [hquery, String.toList_ofList]
    exact hs
  exact (hservice service hregistered).code?_run_of_spells _ _ hs' hrun hcontainer

/-- A target that is answered as malformed goes to a service, which gave the answer to
the text of its route query. -/
theorem exists_run_of_malformed (htable : server.router.table = Router.new.table)
    (hmiddlewares : ∀ m ∈ server.middlewares, m.Transparent) {target : String} {position : Nat}
    (h : (server.answer surroundings .get target).value.Malformed position) :
    ∃ (r : RouteTarget) (service : Service) (status : Status) (container : Container),
      r.text = target.toList ∧
      server.router.service? (String.ofList r.profile) = some service ∧
      server.destination (.ofTarget .get target) =
        .ok (.service service (width r.lead) (String.ofList r.queryText)) ∧
      (service.run surroundings.elapsed (width r.lead) (String.ofList r.queryText)).value =
        .ok (status, container) ∧
      container.code? = some Service.invalidQuery ∧
      container.encode.body = (Container.error Service.invalidQuery
        ("Query string malformed close to position " ++ toString position)).encode.body := by
  obtain ⟨hcode, hbody⟩ := h
  obtain ⟨hcode', hbody'⟩ := server.answer_of_transparent surroundings hmiddlewares .get target
  rw [hcode'] at hcode
  rw [hbody'] at hbody
  obtain ⟨service, offset, query, status, container, hdestination, hrun, hcontainer, hdispatch⟩ :=
    exists_run_of_code surroundings hcode
  obtain ⟨r, hnames⟩ := exists_names htable
    (RouteTarget.questionMark_not_mem_path_ofTarget .get target) hdestination
  obtain ⟨hregistered, hoffset, hquery⟩ := service_of_names htable hnames hdestination
  rw [hoffset, hquery] at hdestination hrun
  rw [hdispatch] at hbody
  exact ⟨r, service, status, container, RouteTarget.text_of_names hnames, hregistered,
    hdestination, hrun, hcontainer, hbody⟩

/-- A position in an answer is a place in the target. Either the target has no good
coordinates, and it is the place where the text of its route query begins; or
the coordinates are good, and it is the place of the separator in front of the
first rejected pair, up to which the target is not answered as malformed. -/
theorem position_of_malformed (htable : server.router.table = Router.new.table)
    (hmiddlewares : ∀ m ∈ server.middlewares, m.Transparent) (target : String)
    (hservice : ∀ service offset query,
      server.destination (.ofTarget .get target) = .ok (.service service offset query) →
        service.Plain) {position : Nat}
    (h : (server.answer surroundings .get target).value.Malformed position) :
    position ≤ target.utf8ByteSize ∧ ∃ r : RouteTarget, r.text = target.toList ∧
      Xor ((∀ cs, ¬ CoordinatesText (coordinateText r.queryText) cs) ∧ position = width r.lead)
        ((∃ cs, CoordinatesText (coordinateText r.queryText) cs) ∧
          ∃ s head bad tail e, FirstRejected r.queryText s head bad tail e ∧
            position = width (r.lead ++ head) ∧
            target.toList = r.lead ++ head ++ s.nextSeparator :: (bad ++ tail ++ r.trail) ∧
            (s.nextSeparator = '&' ∨ s.nextSeparator = '?') ∧
            ∀ surroundings', (server.answer surroundings' .get
              (String.ofList (r.lead ++ head))).value.code ≠ some Service.invalidQuery) := by
  obtain ⟨r, service, status, container, htext, hregistered, hdestination, hrun, hcontainer,
    hbody⟩ := exists_run_of_malformed surroundings htable hmiddlewares h
  have hplain := hservice _ _ _ hdestination
  have hquery : (String.ofList r.queryText).toList = r.queryText := String.toList_ofList
  have hparts : target.toList = r.lead ++ (r.queryText ++ r.trail) := by
    rw [← htext, r.text_eq]
  rcases query_cases r.queryText with hnone | ⟨s, hs⟩ | ⟨s, head, bad, tail, e, hfirst⟩
  · have hnone' := hquery.symm ▸ hnone
    rw [hplain.run_of_noCoordinates _ _ hnone'] at hrun
    cases hrun
    have hposition : position = width r.lead := (Container.encode_error_inj hbody).symm
    refine ⟨?_, r, htext, .inl ⟨⟨hnone, hposition⟩, fun hgood => ?_⟩⟩
    · rw [utf8ByteSize_eq_width, hparts, width_append, hposition]
      exact Nat.le_add_right _ _
    · obtain ⟨⟨cs, hcs⟩, -⟩ := hgood
      exact hnone cs hcs
  · have hs' : s.Spells (String.ofList r.queryText).toList := hquery.symm ▸ hs
    exact absurd hcontainer (hplain.code?_run_of_spells _ _ hs' hrun)
  · have hfirst' : FirstRejected (String.ofList r.queryText).toList s head bad tail e :=
      hquery.symm ▸ hfirst
    rw [hplain.run_of_firstRejected _ _ hfirst'] at hrun
    cases hrun
    have hposition : position = width (r.lead ++ head) := by
      rw [width_append]
      exact (Container.encode_error_inj hbody).symm
    have htarget : target.toList =
        r.lead ++ head ++ s.nextSeparator :: (bad ++ tail ++ r.trail) := by
      rw [hparts, hfirst.text]
      simp
    have hgood := hfirst.exists_coordinates
    refine ⟨?_, r, htext, .inr ⟨⟨hgood, s, head, bad, tail, e, hfirst, hposition, htarget,
      s.nextSeparator_cases, fun surroundings' => ?_⟩, fun hnone => ?_⟩⟩
    · rw [utf8ByteSize_eq_width, htarget, width_append, hposition]
      exact Nat.le_add_right _ _
    · obtain ⟨r', hprofile, htext', hquery'⟩ := RouteTarget.exists_truncated hfirst
      rw [← htext']
      refine code_answer_of_spells surroundings' htable hmiddlewares r' (fun service' hservice' => ?_)
        (hquery' ▸ hfirst.spells)
      rw [hprofile, hregistered] at hservice'
      exact Option.some.inj hservice' ▸ hplain
    · obtain ⟨cs, hcs⟩ := hgood
      exact hnone.1 cs hcs

/-- An unknown key behind coordinates in the path: the position is that of the question
mark. -/
theorem position_of_malformed_unknownKey : ∃ (server : Server) (surroundings : Surroundings),
    (server.answer surroundings .get "/route/v1/driving/1,1;2,2?x=1").value.Malformed 25 ∧
      25 ≤ "/route/v1/driving/1,1;2,2?x=1".utf8ByteSize := by
  let service : Service := { engine := { route := fun _ _ => pure (.error ⟨"no map"⟩) } }
  let server : Server :=
    { config := {}
      router := { Router.new with services := [("driving", service)] }
      middlewares := [Middleware.logging, Middleware.cors] }
  let surroundings : Surroundings := { requestId := "a", elapsed := 0, task := "0" }
  let r : RouteTarget :=
    { profile := "driving".toList
      coordinates := some "1,1;2,2".toList
      query := some "x=1".toList
      profile_part := ⟨⟨by decide, by decide⟩, by decide⟩
      coordinates_part := fun c hc => Option.some.inj hc ▸ ⟨⟨by decide, by decide⟩, by decide⟩ }
  have htext : r.text = "/route/v1/driving/1,1;2,2?x=1".toList := by decide
  have hplain : service.Plain := ⟨rfl, fun p status container h => by cases h⟩
  have hmiddlewares : ∀ m ∈ server.middlewares, m.Transparent := by
    intro m hm
    rcases List.mem_cons.mp hm with hm | hm
    · exact hm ▸ Middleware.logging_transparent
    · exact List.mem_singleton.mp hm ▸ Middleware.cors_transparent "*"
  have hdestination : server.destination (.ofTarget .get "/route/v1/driving/1,1;2,2?x=1") =
      .ok (.service service 18 "1,1;2,2?x=1") := by
    rw [destination_of_names rfl (RouteTarget.names_ofTarget htext)]
    rfl
  obtain ⟨cs, hcs⟩ := Option.isSome_iff_exists.mp
    (show (coordinates? "1,1;2,2".toList).isSome = true by decide)
  let s : Sentence := { layout := .bare, coordinates := cs, settings := [], distinct := by simp }
  have hunknown : Rejected s.keys ("x".toList ++ '=' :: "1".toList) (.unknownKey "x") :=
    .unknownKey (by decide) fun key => by cases key <;> decide
  have hfirst : FirstRejected "1,1;2,2?x=1".toList s "1,1;2,2".toList "x=1".toList []
      (.unknownKey "x") :=
    { text := rfl
      spells := .alone (coordinates?_eq_some_iff.mp hcs) rfl
      pair := by decide
      ends := by simp [EndsPair]
      rejected := hunknown }
  have hrun := hplain.run_of_firstRejected 0 18 hfirst
  rw [show 18 + width "1,1;2,2".toList = 25 by decide] at hrun
  obtain ⟨hcode, hbody⟩ := server.answer_of_transparent surroundings hmiddlewares .get
    "/route/v1/driving/1,1;2,2?x=1"
  rw [dispatch_of_service surroundings hdestination, hrun] at hcode hbody
  have hmalformed : (server.answer surroundings .get
      "/route/v1/driving/1,1;2,2?x=1").value.Malformed 25 :=
    ⟨hcode, hbody⟩
  refine ⟨server, surroundings, hmalformed,
    (position_of_malformed surroundings rfl hmiddlewares _ ?_ hmalformed).1⟩
  intro service' offset query hservice
  rw [hdestination] at hservice
  cases hservice
  exact hplain

end Server

end RoutingGateway
