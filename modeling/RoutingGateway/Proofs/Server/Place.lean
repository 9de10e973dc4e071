/-
Positions of malformed queries in the URIs that arrive.

A request that arrives over a connection brings a URI, and of its text the gateway has path
and query alone. A position in an answer counts from the first character of the path
(`handle_place`). So it is a place in the text of the URI exactly where the text begins with
the path. Where a scheme and an authority stand in front of it, every position falls short of
the place by their width (`handle_place_absolute`).
-/
import RoutingGateway.GreatCircle
import RoutingGateway.Proofs.Http.Uri
import RoutingGateway.Proofs.Query.Places
import RoutingGateway.Proofs.Server.FrontEnd
import RoutingGateway.Proofs.Server.Position
import RoutingGateway.Proofs.Service.Reply

namespace RoutingGateway

open RoutingGateway.Http RoutingGateway.Query RoutingGateway.Text

/-! ## Faults of targets -/

/-- The text in front of the fault of a target. It ends where the route query begins, if there are
no good coordinates, and in front of the separator of the first rejected pair otherwise. -/
inductive RouteTarget.Faulty (r : RouteTarget) : List Char → Prop
  | coordinates : (∀ cs, ¬ CoordinatesText (coordinateText r.queryText) cs) → Faulty r r.lead
  | pair {s : Sentence} {head bad tail : List Char} {e : PairError} :
      FirstRejected r.queryText s head bad tail e → Faulty r (r.lead ++ head)

/-- A route query that is not read to its end stops at the fault of its target. -/
theorem RouteTarget.exists_faulty {r : RouteTarget}
    (h : ∀ p, Query.read r.queryText ≠ .complete p) :
    ∃ front, r.Faulty front ∧
      width front = width r.lead + (Query.read r.queryText).stop r.queryText := by
  rcases query_cases r.queryText with hnone | ⟨s, hs⟩ | ⟨s, head, bad, tail, e, hfirst⟩
  · refine ⟨_, .coordinates hnone, ?_⟩
    rw [read_of_noCoordinates hnone]
    rfl
  · exact absurd (read_of_spells hs) (h _)
  · refine ⟨_, .pair hfirst, ?_⟩
    rw [read_of_firstRejected hfirst, width_append]
    rfl

/-! ## Answers -/

namespace Service

/-- The wording of the answer to a malformed query. -/
def malformedMessage (position : Nat) : String :=
  "Query string malformed close to position " ++ toString position

theorem literal_malformedMessage (position : Nat) :
    Json.Literal (malformedMessage position).toList :=
  Json.Literal.append_toString (by decide) position

theorem literal_invalidQuery : Json.Literal invalidQuery.toList := by decide

/-- A query that is not read to its end is answered as malformed. -/
theorem value_run_of_malformed (service : Service) (elapsed offset : Nat) {query : String}
    {parameters : Option Parameters} {stop : Nat}
    (hparse : (service.parser.parse query).value = .ok (parameters, stop))
    (h : parameters = none ∨ stop ≠ query.utf8ByteSize) :
    (service.run elapsed offset query).value =
      .ok (.error, .error invalidQuery (malformedMessage (offset + stop))) := by
  rw [service.run_of_malformed elapsed offset hparse h]
  rfl

/-- No reply to parameters is the answer to a malformed query: it has another code, or it tells
the time that the engine took. -/
theorem reply_ne_malformed (service : Service) (elapsed : Nat) (p : Parameters) (status : Status)
    (message : String) : service.reply elapsed p ≠ .ok (status, .error invalidQuery message) := by
  intro hreply
  unfold reply at hreply
  cases hvalidate : p.validate with
  | error e =>
    rw [hvalidate] at hreply
    injection hreply with hanswer
    have hcode := congrArg Container.code? (Prod.mk.inj hanswer).2
    rw [Container.code?_error, Container.code?_error] at hcode
    exact absurd hcode (by decide)
  | ok _ =>
    simp only [hvalidate] at hreply
    cases hroute : (service.engine.route p (freshContainer p.outputFormat)).value with
    | error panic =>
      rw [hroute] at hreply
      cases hreply
    | ok answer =>
      -- the time is put into every document, and an error document has no such field
      obtain ⟨status', container⟩ := answer
      rw [hroute] at hreply
      injection hreply with hanswer
      have hcontainer := (Prod.mk.inj hanswer).2
      have htime := congrArg (·.get? durationField) hcontainer
      have hnone : (Container.error invalidQuery message).get? durationField = none := by
        simp [Container.error, Document.error, Container.get?, Document.get?, Json.field?,
          durationField]
      cases container with
      | document doc =>
        rw [hnone, Container.get?_insert _ _ _ _ rfl, if_pos rfl] at htime
        cases htime
      | buffer bytes => cases hcontainer

/-- Only at the fault of its target a query is answered as malformed. -/
theorem exists_faulty_of_run {service : Service} (hparser : service.parser = Query.parser)
    {r : RouteTarget} {elapsed position : Nat} {status : Status}
    (hrun : (service.run elapsed (width r.lead) (String.ofList r.queryText)).value =
      .ok (status, .error invalidQuery (malformedMessage position))) :
    ∃ before, r.Faulty before ∧ position = width before := by
  by_cases hread : ∃ p, Query.read r.queryText = .complete p
  · obtain ⟨p, hread⟩ := hread
    have hparse : (service.parser.parse (String.ofList r.queryText)).value =
        .ok (some p, (String.ofList r.queryText).utf8ByteSize) := by
      rw [hparser]
      exact parse_eq_whole_iff_read.mpr (String.toList_ofList.symm ▸ hread)
    rw [run_of_whole service elapsed _ hparse] at hrun
    exact absurd hrun (service.reply_ne_malformed elapsed p status _)
  · have hnot := not_exists.mp hread
    obtain ⟨before, hfaulty, hwidth⟩ := RouteTarget.exists_faulty hnot
    rw [run_of_not_complete hparser elapsed _ (String.toList_ofList.symm ▸ hnot),
      String.toList_ofList, ← hwidth] at hrun
    injection hrun with hanswer
    have hbody := congrArg (·.encode.body) (Prod.mk.inj hanswer).2
    exact ⟨before, hfaulty, (Container.encode_error_inj hbody).symm⟩

end Service

/-- The response on the wire is the document for a query that is malformed at this position. -/
structure Http.WireResponse.Malformed (wire : WireResponse) (position : Nat) : Prop where
  contentType : wire.headers.head? = some ("content-type", Container.documentType)
  body : wire.body =
    (Container.error Service.invalidQuery (Service.malformedMessage position)).encode.body

/-- The content type and the body on the wire are those of the response. -/
theorem Http.WireResponse.Malformed.of_wire {response : Response} {position : Nat}
    (h : response.wire.Malformed position) :
    response.contentType = Container.documentType ∧ response.body =
      (Container.error Service.invalidQuery (Service.malformedMessage position)).encode.body := by
  obtain ⟨htype, hbody⟩ := h
  unfold Response.wire at htype hbody
  cases hfault : response.fault? with
  | some fault =>
    rw [hfault] at htype
    cases htype
  | none =>
    simp only [hfault] at htype hbody
    exact ⟨(Prod.mk.inj (Option.some.inj htype)).2, hbody⟩

namespace Server

variable {server : Server} {surroundings : Surroundings}

/-- Where the answer to a malformed query is dispatched, the run of a service has given it. -/
theorem exists_run_of_malformed_body {request : Request} {position : Nat}
    (htype : (server.dispatch surroundings request).value.contentType = Container.documentType)
    (hbody : (server.dispatch surroundings request).value.body =
      (Container.error Service.invalidQuery (Service.malformedMessage position)).encode.body) :
    ∃ service offset query status,
      server.destination request = .ok (.service service offset query) ∧
      (service.run surroundings.elapsed offset query).value =
        .ok (status, .error Service.invalidQuery (Service.malformedMessage position)) := by
  have hliteral := Service.literal_malformedMessage position
  obtain ⟨status, container, hdispatch⟩ := server.exists_ofContainer_dispatch surroundings request
  rw [hdispatch] at htype hbody
  have hcontainer := Container.eq_error_of_body Service.literal_invalidQuery hliteral htype hbody
  have hcode : (server.dispatch surroundings request).value.code = some Service.invalidQuery := by
    rw [hdispatch, hcontainer]
    exact Container.code?_error Service.invalidQuery (Service.malformedMessage position)
  obtain ⟨service, offset, query, status', container', hdestination, hrun, hcode', hbody'⟩ :=
    exists_run_of_code surroundings hcode
  have htype' : container'.encode.contentType = Container.documentType := by
    cases container' with
    | document doc => rfl
    | buffer bytes => cases hcode'
  rw [hdispatch] at hbody'
  have hsame := Container.eq_error_of_body Service.literal_invalidQuery hliteral htype'
    (hbody'.symm.trans hbody)
  exact ⟨service, offset, query, status', hdestination, hsame ▸ hrun⟩

/-- What a service says of a malformed query goes out behind the middlewares of this library. -/
theorem malformed_of_run (hmiddlewares : ∀ m ∈ server.middlewares, m.BuiltIn)
    (hid : isReadable surroundings.requestId = true) {request : Request} {service : Service}
    {offset : Nat} {query : String} {status : Status} {position : Nat}
    (hdestination : server.destination request = .ok (.service service offset query))
    (hrun : (service.run surroundings.elapsed offset query).value =
      .ok (status, .error Service.invalidQuery (Service.malformedMessage position))) :
    (server.process surroundings request).value.wire.Malformed position := by
  have hlegal : ∀ m ∈ server.middlewares, m.Legal := fun m hm => (hmiddlewares m hm).legal
  have hcore := core_process surroundings (fun m hm => (hmiddlewares m hm).neutral) request
  rw [dispatch_of_service surroundings hdestination, hrun] at hcore
  have hcarries := (Response.carries_ofContainer _ _).of_core hcore
  rw [Response.wire_of_fault? (fault?_process hlegal hid)]
  refine ⟨?_, hcarries.body⟩
  rw [Response.allHeaders, hcarries.contentType]
  rfl

/-- A request whose URI has been read names a target only if path and query in the text of the URI
are that target. -/
theorem target_of_names {r : RouteTarget} {uri : Uri} {headers : Headers}
    (h : r.Names (Request.ofUri .get uri headers)) : uri.target = r.text := by
  have hpath : uri.path = String.ofList r.path := h.path
  have hquery : uri.query = r.query.map String.ofList := h.query
  rw [Uri.target, hpath, hquery, String.toList_ofList, RouteTarget.text]
  cases r.query <;> simp [RouteTarget.behindPath]

/-- Path and query of a URI that is answered as malformed are a target, and the position is the
width of what stands in front of its fault. -/
theorem exists_target_of_malformed (htable : server.router.table = Router.new.table)
    (hmiddlewares : ∀ m ∈ server.middlewares, m.Neutral) {uri : Uri}
    (hmark : '?' ∉ uri.path.toList) (headers : Headers) (client : String)
    (hparser : ∀ service offset query,
      server.destination (.ofUri .get uri headers) = .ok (.service service offset query) →
        service.parser = Query.parser) {position : Nat}
    (h : (server.handle surroundings { method := "GET", uri, headers, client }).value.Malformed
      position) :
    ∃ r before, r.Names (Request.ofUri .get uri headers) ∧ RouteTarget.Faulty r before ∧
      position = width before := by
  let arrival : Arrival := { method := "GET", uri, headers, client }
  have hwire : (server.handle surroundings arrival).value =
      (server.process surroundings (arrival.request .get)).value.wire :=
    value_handle_of_known rfl
  obtain ⟨htype, hbody⟩ := Http.WireResponse.Malformed.of_wire (hwire ▸ h)
  -- behind the middlewares stands the answer of a service, to the query of a target
  obtain ⟨-, -, hcoretype, hcorebody⟩ :=
    Response.core_eq_iff.mp (core_process surroundings hmiddlewares (arrival.request .get))
  rw [hcoretype] at htype
  rw [hcorebody] at hbody
  obtain ⟨service, offset, query, status, hdestination, hrun⟩ :=
    exists_run_of_malformed_body htype hbody
  have harrival : server.destination (arrival.request .get) =
      server.destination (.ofUri .get uri headers) := server.destination_setHeader _ _ _
  rw [harrival] at hdestination
  obtain ⟨r, hnames⟩ := exists_names htable hmark hdestination
  have hservice := hparser service offset query hdestination
  obtain ⟨-, rfl, rfl⟩ := service_of_names htable hnames hdestination
  obtain ⟨before, hfaulty, hposition⟩ := Service.exists_faulty_of_run hservice hrun
  exact ⟨r, before, hnames, hfaulty, hposition⟩

/-- A position in an answer counts from the beginning of the path, wherever that stands in the text
of the URI. It is the place of the fault in the text exactly where the text begins with a slash. -/
theorem handle_place (htable : server.router.table = Router.new.table)
    (hmiddlewares : ∀ m ∈ server.middlewares, m.Neutral) {text : String} {uri : Uri}
    (hread : Uri.read text = .ok uri) (headers : Headers) (client : String)
    (hparser : ∀ service offset query,
      server.destination (.ofUri .get uri headers) = .ok (.service service offset query) →
        service.parser = Query.parser) {position : Nat}
    (h : (server.handle surroundings { method := "GET", uri, headers, client }).value.Malformed
      position) :
    ∃ front r before fragment, text.toList = front ++ (r.text ++ fragment) ∧
      Uri.Front front ∧ Uri.IsFragment fragment ∧ '#' ∉ r.text ∧
      RouteTarget.Faulty r before ∧ position = width before ∧
      (position = width (front ++ before) ↔ text.toList.head? = some '/') := by
  have hmark := Uri.questionMark_not_mem_path hread
  obtain ⟨r, before, hnames, hfaulty, hposition⟩ :=
    exists_target_of_malformed htable hmiddlewares hmark headers client hparser h
  have hpath : 1 < uri.path.toList.length := by
    have hnamed : uri.path = String.ofList r.path := hnames.path
    rw [hnamed, String.toList_ofList, RouteTarget.path, List.length_append]
    exact Nat.lt_add_right _ (by decide)
  obtain ⟨front, fragment, htext, hfront, hslash, hfragment, hhash⟩ := Uri.read_parts hread hpath
  rw [target_of_names hnames] at htext hhash
  refine ⟨front, r, before, fragment, htext, hfront, hfragment, hhash, hfaulty, hposition, ?_⟩
  rw [← hslash, hposition, width_append]
  constructor
  · intro hsame
    by_contra hne
    have hwide := one_le_width hne
    omega
  · intro hnil
    rw [hnil, width_nil, Nat.zero_add]

end Server

/-! ## An absolute URI -/

namespace Server.AbsoluteForm

/-- The second option has a key that is not known. -/
def uri : Uri := { path := "/route/v1/driving", query := some "coordinates=1,1;2,2&bogus=x" }

/-- The text that is read as the URI. -/
def text : String := "http://localhost/route/v1/driving?coordinates=1,1;2,2&bogus=x"

theorem read_text : Uri.read text = .ok uri := by rfl

section

variable {server : Server} {service : Service} (htable : server.router.table = Router.new.table)
  (hservice : server.router.service? "driving" = some service)
  (hlong : 27 ≤ server.config.maxQueryLength)

include htable hservice hlong

theorem destination_request (headers : Headers) :
    server.destination (.ofUri .get uri headers) =
      .ok (.service service 18 "coordinates=1,1;2,2&bogus=x") := by
  let r : RouteTarget :=
    { profile := "driving".toList
      coordinates := none
      query := some "coordinates=1,1;2,2&bogus=x".toList
      profile_part := ⟨⟨by decide, by decide⟩, by decide⟩
      coordinates_part := nofun }
  have hnames : r.Names (.ofUri .get uri headers) := ⟨rfl, rfl, rfl⟩
  have hprofile : String.ofList r.profile = "driving" := rfl
  have hquery : width r.queryText = 27 := by decide
  have hlead : width r.lead = 18 := by decide
  rw [destination_of_names htable hnames]
  simp only [hprofile, hservice, hquery, hlead, if_neg (Nat.not_lt.mpr hlong)]
  rfl

/-- Behind the middlewares of this library the answer names the place in the target. -/
theorem malformed (hparser : service.parser = Query.parser)
    (hmiddlewares : ∀ m ∈ server.middlewares, m.BuiltIn) {surroundings : Surroundings}
    (hid : isReadable surroundings.requestId = true) (headers : Headers) (client : String) :
    (server.handle surroundings { method := "GET", uri, headers, client }).value.Malformed 37 := by
  let arrival : Arrival := { method := "GET", uri, headers, client }
  have hparse : (service.parser.parse "coordinates=1,1;2,2&bogus=x").value =
      .ok (some { coordinates := [⟨1.0, 1.0⟩, ⟨2.0, 2.0⟩] }, 19) := by
    rw [hparser]
    rfl
  have hrun := service.value_run_of_malformed surroundings.elapsed 18 hparse (.inr (by decide))
  have hdestination : server.destination (arrival.request .get) =
      .ok (.service service 18 "coordinates=1,1;2,2&bogus=x") := by
    rw [Arrival.request, destination_setHeader]
    exact destination_request htable hservice hlong headers
  have hwire : (server.handle surroundings arrival).value =
      (server.process surroundings (arrival.request .get)).value.wire :=
    value_handle_of_known rfl
  rw [hwire]
  exact malformed_of_run hmiddlewares hid hdestination hrun

end

/-- The answer names the place of the fault in the target, but not in this text. -/
theorem handle_place_localhost :
    let server : Server :=
      { config := {}
        router :=
          { Router.new with services := [("driving", { engine := GreatCircle.toEngine {} })] }
        middlewares := [Middleware.logging, Middleware.cors] }
    let surroundings : Surroundings :=
      { requestId := RequestId.generate 7 1, elapsed := 5, task := "0" }
    let arrival : Arrival := { method := "GET", uri, headers := .empty, client := "127.0.0.1" }
    (server.handle surroundings arrival).value.Malformed 37 ∧
      ∃ front r before fragment, text.toList = front ++ (r.text ++ fragment) ∧
        Uri.Front front ∧ Uri.IsFragment fragment ∧ '#' ∉ r.text ∧
        RouteTarget.Faulty r before ∧ 37 = width before ∧
        (37 = width (front ++ before) ↔ text.toList.head? = some '/') := by
  intro server surroundings arrival
  have hmiddlewares : ∀ m ∈ server.middlewares, m.BuiltIn := by
    intro m hm
    rcases List.mem_pair.mp hm with rfl | rfl
    · exact .logging
    · exact .cors (by decide)
  have hneutral : ∀ m ∈ server.middlewares, m.Neutral := fun m hm => (hmiddlewares m hm).neutral
  have hlong : 27 ≤ server.config.maxQueryLength := by decide
  have hid : isReadable surroundings.requestId = true := isReadable_generate 7 1
  have hmalformed : (server.handle surroundings arrival).value.Malformed 37 :=
    malformed rfl rfl hlong rfl hmiddlewares hid .empty "127.0.0.1"
  refine ⟨hmalformed, handle_place rfl hneutral read_text .empty "127.0.0.1" ?_ hmalformed⟩
  intro service offset query hdestination
  rw [destination_request rfl rfl hlong] at hdestination
  cases hdestination
  rfl

/-- The rejected pair stands at byte 53 of the text, behind a scheme and an authority of 16
bytes. The answer names byte 37 and no other. -/
theorem handle_place_absolute :
    let server : Server :=
      { config := {}
        router :=
          { Router.new with services := [("driving", { engine := GreatCircle.toEngine {} })] }
        middlewares := [] }
    let surroundings : Surroundings :=
      { requestId := RequestId.generate 7 1, elapsed := 5, task := "0" }
    let arrival : Arrival := { method := "GET", uri, headers := .empty, client := "127.0.0.1" }
    Uri.read text = .ok uri ∧
      text.toList = "http://localhost/route/v1/driving?coordinates=1,1;2,2".toList ++
        "&bogus=x".toList ∧
      width "http://localhost/route/v1/driving?coordinates=1,1;2,2".toList = 53 ∧
      (server.handle surroundings arrival).value.Malformed 37 ∧
      ¬ (server.handle surroundings arrival).value.Malformed 53 := by
  intro server surroundings arrival
  have hid : isReadable surroundings.requestId = true := isReadable_generate 7 1
  have hlong : 27 ≤ server.config.maxQueryLength := by decide
  have hmalformed : (server.handle surroundings arrival).value.Malformed 37 :=
    malformed rfl rfl hlong rfl (List.forall_mem_nil _) hid .empty "127.0.0.1"
  refine ⟨read_text, by decide, by decide, hmalformed, fun h => ?_⟩
  have hsame : 37 = 53 := Container.encode_error_inj (hmalformed.body.symm.trans h.body)
  exact absurd hsame (by decide)

end Server.AbsoluteForm

end RoutingGateway
