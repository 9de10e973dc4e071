/-
The stock server.

A stock server has the built-in patterns, and every profile has the parser of
this library and a great-circle engine. Whatever it is asked, it answers: its
services never give up, and the numbers that come up on the way are places in
the target (`CountsInside`), so there is none that a machine word could not
hold. It never answers that the fault is its own. Where an answer is not a
success it is a document with a code and a message (`Container.NamesFault`), also
to a query that asks for a buffer, and a route goes out in the encoding that the
query asks for (`AnswersRoute`).

The services decide all of this (`Service.Stock.run_cases`). What is settled
before a service is asked has its answers in `Settles`.
-/
import RoutingGateway.Proofs.GreatCircle
import RoutingGateway.Proofs.Query.Places
import RoutingGateway.Proofs.Server.Decision
import RoutingGateway.Proofs.Server.Target
import RoutingGateway.Proofs.Service.Reply

namespace RoutingGateway

open RoutingGateway.Http RoutingGateway.Query RoutingGateway.Text

/-! ## Answers -/

/-- The container is a document whose code and message are texts. -/
def Container.NamesFault (container : Container) : Prop :=
  ∃ doc code message, container = .document doc ∧ doc.get? "code" = some (.string code) ∧
    doc.get? "message" = some (.string message)

theorem Container.namesFault_error (code message : String) :
    (Container.error code message).NamesFault :=
  ⟨.error code message, code, message, rfl, rfl, rfl⟩

/-- A further field takes no code and no message away. -/
theorem Container.NamesFault.insert {container : Container} (h : container.NamesFault)
    {name : String} (hcode : name ≠ "code") (hmessage : name ≠ "message") (value : Json) :
    (container.insert name value).NamesFault := by
  obtain ⟨doc, code, message, rfl, hdoc, hdoc'⟩ := h
  refine ⟨doc.insert name value, code, message, rfl, ?_, ?_⟩
  · rw [doc.get?_insert, if_neg hcode.symm, hdoc]
  · rw [doc.get?_insert, if_neg hmessage.symm, hdoc']

/-- What a route goes out as, for a query that says this: a buffer where the query asks
for one, and otherwise a document of one route, a waypoint for each coordinate and the
time it took. -/
inductive AnswersRoute (s : Sentence) : Container → Prop
  | buffer {bytes : List UInt8} : .format .flatbuffers ∈ s.settings →
      bytes.length = 4 + 16 * (max s.coordinates.length 1 - 1) → AnswersRoute s (.buffer bytes)
  | document {doc : Document} {route : Json} {waypoints : List Json} {elapsed : Nat} :
      .format .flatbuffers ∉ s.settings → doc.get? "code" = some (.string "Ok") →
      doc.get? "routes" = some (.array [route]) →
      doc.get? "waypoints" = some (.array waypoints) → waypoints.length = s.coordinates.length →
      doc.get? "durationNanos" = some (.int elapsed) → AnswersRoute s (.document doc)

namespace GreatCircle

/-! ## The engine -/

/-- A route in a container of the wanted kind. -/
def written (engine : GreatCircle) (p : Parameters) : Container :=
  if p.format = some .flatbuffers then .buffer (routeBytes (engine.legs p.coordinates))
  else .document (writeDocument p (engine.legs p.coordinates) ⟨[]⟩)

/-- The engine refuses with a document that names the fault, or writes the route. -/
theorem route_cases (engine : GreatCircle) (p : Parameters) :
    (∃ code message, engine.route p (Service.freshContainer p.outputFormat) =
      (.error, .error code message)) ∨
    engine.route p (Service.freshContainer p.outputFormat) = (.ok, engine.written p) := by
  rw [Service.freshContainer_outputFormat, route]
  cases engine.refusal? p.exclude with
  | some refusal =>
    obtain ⟨code, message⟩ := refusal
    exact .inl ⟨code, message, rfl⟩
  | none =>
    unfold written
    by_cases hformat : p.format = some .flatbuffers
    · rw [if_pos hformat, if_pos hformat]
      exact .inr rfl
    · rw [if_neg hformat, if_neg hformat]
      exact .inr rfl

/-- With its time a route is what the query asks for. -/
theorem answersRoute_written (engine : GreatCircle) (s : Sentence) (elapsed : Nat) :
    AnswersRoute s ((engine.written s.parameters).insert Service.durationField (.int elapsed)) := by
  unfold written
  by_cases hformat : s.parameters.format = some .flatbuffers
  · rw [if_pos hformat]
    refine .buffer (Sentence.format_parameters_eq_some_iff.mp hformat) ?_
    rw [length_routeBytes, length_legs, s.coordinates_parameters]
  · rw [if_neg hformat]
    have hother : .format .flatbuffers ∉ s.settings := fun hmem =>
      hformat (Sentence.format_parameters_eq_some_iff.mpr hmem)
    have hfield {name : String} (h : name ≠ Service.durationField) (doc : Document) :
        (doc.insert Service.durationField (.int elapsed)).get? name = doc.get? name := by
      rw [doc.get?_insert, if_neg h]
    have hcode := (hfield (by decide) _).trans (get?_code_writeDocument s.parameters
      (engine.legs s.parameters.coordinates) ⟨[]⟩)
    have hroutes := (hfield (by decide) _).trans (get?_routes_writeDocument s.parameters
      (engine.legs s.parameters.coordinates) ⟨[]⟩)
    have hwaypoints := (hfield (by decide) _).trans (get?_waypoints_writeDocument s.parameters
      (engine.legs s.parameters.coordinates) ⟨[]⟩)
    have hcount : (waypoints s.parameters).length = s.coordinates.length := by
      rw [waypoints, List.length_mapIdx, s.coordinates_parameters]
    exact .document hother hcode hroutes hwaypoints hcount
      ((Document.get?_insert ..).trans (if_pos rfl))

end GreatCircle

/-! ## Services -/

/-- The service has the parser of this library and a great-circle engine. -/
structure Service.Stock (service : Service) : Prop where
  parser : service.parser = Query.parser
  engine : ∃ engine : GreatCircle, service.engine = engine.toEngine

namespace Service

/-- A stock service refuses with a document that names the fault, or the query spells a
sentence and the service answers with the route. It never gives up. -/
theorem Stock.run_cases {service : Service} (h : service.Stock) (elapsed offset : Nat)
    (query : String) :
    (∃ answer, (service.run elapsed offset query).value = .ok (.error, answer) ∧
      answer.NamesFault) ∨
    ∃ (s : Sentence) (answer : Container),
      (service.run elapsed offset query).value = .ok (.ok, answer) ∧
        s.Spells query.toList ∧ AnswersRoute s answer := by
  obtain ⟨hparser, engine, hengine⟩ := h
  by_cases hspells : ∃ s : Sentence, s.Spells query.toList
  · obtain ⟨s, hs⟩ := hspells
    have hparse : (service.parser.parse query).value =
        .ok (some s.parameters, query.utf8ByteSize) := by rw [hparser, parse_of_spells hs]
    rw [run_of_whole service elapsed offset hparse, reply, hengine]
    cases s.parameters.validate with
    | error e => exact .inl ⟨_, rfl, Container.namesFault_error _ _⟩
    | ok _ =>
      simp only [GreatCircle.toEngine, Logged.value_pure]
      rcases engine.route_cases s.parameters with ⟨code, message, hroute⟩ | hroute
      · rw [hroute]
        exact .inl ⟨_, rfl,
          (Container.namesFault_error code message).insert (by decide) (by decide) _⟩
      · rw [hroute]
        exact .inr ⟨s, _, rfl, hs, engine.answersRoute_written s _⟩
  · have hread : ∀ p, read query.toList ≠ .complete p := by
      intro p hcomplete
      have hparse := parse_eq_whole_iff_read.mpr hcomplete
      rcases query_cases query.toList with hnone | hs | ⟨s, head, bad, tail, e, hfirst⟩
      · rw [parse_of_noCoordinates hnone] at hparse
        cases hparse
      · exact hspells hs
      · rw [read_of_firstRejected hfirst] at hcomplete
        cases hcomplete
    rw [run_of_not_complete hparser elapsed offset hread]
    exact .inl ⟨_, rfl, Container.namesFault_error _ _⟩

end Service

namespace Server

variable {server : Server}

/-! ## Places on the way of a request -/

/-- The numbers that come up on the way of a request, against the length of its target in
bytes. -/
structure CountsInside (server : Server) (request : Request) (length : Nat) : Prop where
  /-- The query ends inside the target. -/
  query : request.queryOffset + request.queryText.utf8ByteSize ≤ length
  /-- Coordinates in the path are not longer than the path. -/
  segment : ∀ found segment, server.router.table.match? request.path = some found →
    found.coordinates? = some segment → segment.utf8ByteSize ≤ request.path.utf8ByteSize
  /-- The route query stands inside the target. -/
  text : ∀ service offset query, server.destination request = .ok (.service service offset query) →
    offset + query.utf8ByteSize ≤ length
  /-- There is a place in front of every pair of the route query, and the pair ends inside of
  it. -/
  pairs : ∀ service offset query, server.destination request = .ok (.service service offset query) →
    ∀ (q : Parts) (place : Nat) (pair : List Char), q.text = query.toList →
      (place, pair) ∈ located (width q.layout.opening + width q.list + 1) q.pairs →
        0 < place ∧ place + width pair ≤ query.utf8ByteSize
  /-- The parser stops inside the route query. -/
  stop : ∀ service offset query, server.destination request = .ok (.service service offset query) →
    ∃ parameters stop, (service.parser.parse query).value = .ok (parameters, stop) ∧
      stop ≤ query.utf8ByteSize
  /-- A buffer has a size of the order of the route query. -/
  room : ∀ service offset query, server.destination request = .ok (.service service offset query) →
    ∀ s : Sentence, s.Spells query.toList →
      4 + 16 * (max s.coordinates.length 1 - 1) ≤ 4 * query.utf8ByteSize

theorem query_inside (method : Method) (target : String) :
    (Request.ofTarget method target).queryOffset +
      (Request.ofTarget method target).queryText.utf8ByteSize ≤ target.utf8ByteSize := by
  have hmark : '?'.utf8Size = 1 := by decide
  cases hcut : cut '?' target.toList with
  | none => simp [Request.ofTarget, hcut, Request.queryOffset, Request.queryText]
  | some parts =>
    obtain ⟨path, query⟩ := parts
    have htarget := (cut_eq_some_iff.mp hcut).1
    simp only [Request.ofTarget, hcut, Request.queryOffset, Request.queryText, Option.getD_some,
      utf8ByteSize_ofList]
    rw [utf8ByteSize_eq_width target, htarget, width_append, width_cons, hmark]
    omega

/-- Coordinates that are found in a path are its last segment. -/
theorem segment_inside {path segment : String} {found : Path.Match Endpoint}
    (hmatch : Router.new.table.match? path = some found)
    (hsegment : found.coordinates? = some segment) :
    segment.utf8ByteSize ≤ path.utf8ByteSize := by
  rcases Path.match?_cases hmatch with rfl | ⟨profile, hprofile, rfl⟩ |
    ⟨profile, coordinates, hprofile, hcoordinates, rfl⟩
  · rw [Path.match?_health] at hmatch
    cases hmatch
    cases hsegment
  · rw [Path.match?_profile hprofile] at hmatch
    cases hmatch
    cases hsegment
  · rw [Path.match?_coordinates hprofile hcoordinates] at hmatch
    cases hmatch
    cases hsegment
    rw [utf8ByteSize_ofList, utf8ByteSize_ofList]
    simp only [width_append, width_cons]
    omega

section

variable (htable : server.router.table = Router.new.table) {method : Method} {target : String}
  {service : Service} {offset : Nat} {query : String}
  (h : server.destination (.ofTarget method target) = .ok (.service service offset query))

include htable h

/-- What goes to a service is the route query of a target, and the service is registered. -/
theorem exists_target : ∃ r : RouteTarget, r.text = target.toList ∧
    server.router.service? (String.ofList r.profile) = some service ∧ offset = width r.lead ∧
      query = String.ofList r.queryText := by
  obtain ⟨r, hnames⟩ := exists_names htable
    (RouteTarget.questionMark_not_mem_path_ofTarget method target) h
  obtain rfl : method = .get := by
    rw [← hnames.method]
    cases hcut : cut '?' target.toList <;> simp only [Request.ofTarget, hcut]
  exact ⟨r, RouteTarget.text_of_names hnames, service_of_names htable hnames h⟩

/-- A route query is the text of a target between its lead and its trail. -/
theorem text_inside : offset + query.utf8ByteSize ≤ target.utf8ByteSize := by
  obtain ⟨r, htext, -, hoffset, hquery⟩ := exists_target htable h
  rw [hoffset, hquery, utf8ByteSize_ofList, utf8ByteSize_eq_width target, ← htext, r.text_eq,
    width_append, width_append]
  omega

end

/-! ## Answers of a stock server -/

/-- What is settled without a service is the probe, or a document that names the fault. -/
theorem Settles.namesFault {request : Request} {status : Nat} {answer : Container}
    (h : server.Settles request status answer) :
    (status = 200 ∧ ∃ found, server.Admits request found ∧ found.value = .health) ∨
      ((status = 404 ∨ status = 405 ∨ status = 414) ∧ answer.NamesFault) := by
  cases h with
  | pathUnknown _ => exact .inr ⟨.inl rfl, Container.namesFault_error _ _⟩
  | methodNotAllowed _ _ => exact .inr ⟨.inr (.inl rfl), Container.namesFault_error _ _⟩
  | health hadmits hendpoint => exact .inl ⟨rfl, _, hadmits, hendpoint⟩
  | profileMissing _ _ _ => exact .inr ⟨.inl rfl, Container.namesFault_error _ _⟩
  | profileUnknown _ _ _ _ => exact .inr ⟨.inl rfl, Container.namesFault_error _ _⟩
  | queryTooLong _ _ => exact .inr ⟨.inr (.inr rfl), Container.namesFault_error _ _⟩

/-- A fault that is named is the client's. -/
theorem statusOf_of_namesFault {answer : Container} (h : answer.NamesFault) :
    statusOf .error answer = 400 := by
  obtain ⟨doc, code, message, rfl, hcode, -⟩ := h
  have hsome : (Container.document doc).code? = some code := Container.code?_eq_some_iff.mpr hcode
  rw [statusOf, hsome]
  rfl

section Stock

variable (htable : server.router.table = Router.new.table)
  (hservices : ∀ profile service, server.router.service? profile = some service → service.Stock)

include htable hservices

theorem stock_of_destination {method : Method} {target : String} {service : Service} {offset : Nat}
    {query : String}
    (h : server.destination (.ofTarget method target) = .ok (.service service offset query)) :
    service.Stock := by
  obtain ⟨r, -, hregistered, -⟩ := exists_target htable h
  exact hservices _ _ hregistered

theorem countsInside (method : Method) (target : String) :
    server.CountsInside (.ofTarget method target) target.utf8ByteSize where
  query := query_inside method target
  segment found segment hmatch hsegment := segment_inside (htable ▸ hmatch) hsegment
  text service offset query h := text_inside htable h
  pairs service offset query h q place pair htext hplace := by
    rw [utf8ByteSize_eq_width, ← htext]
    exact q.pair_inside hplace
  stop service offset query h := by
    rw [(stock_of_destination htable hservices h).parser]
    exact stop_of_parse query
  room service offset query h s hs := by
    rw [utf8ByteSize_eq_width]
    exact hs.buffer_le

/-- Whatever a stock server is asked, the numbers on the way are places in the target, its
services do not give up, and there is an answer under one of five statuses, of which none
is for a fault of the server. Besides a success it is a document that names the fault; a
route answers what the query asks for. -/
theorem answer_of_stock (hmiddlewares : ∀ m ∈ server.middlewares, m.Neutral)
    (surroundings : Surroundings) (method : Method) (target : String) :
    server.CountsInside (.ofTarget method target) target.utf8ByteSize ∧
    (∀ service offset query,
      server.destination (.ofTarget method target) = .ok (.service service offset query) →
        ∀ elapsed, ∃ outcome, (service.run elapsed offset query).value = .ok outcome) ∧
    ∃ status answer, (server.answer surroundings method target).value.Carries status answer ∧
      (status = 200 ∨ status = 400 ∨ status = 404 ∨ status = 405 ∨ status = 414) ∧
      (status ≠ 200 → answer.NamesFault) ∧
      (status = 200 → ∀ found,
        server.router.table.match? (Request.ofTarget method target).path = some found →
          found.value = .route → ∃ service offset query s,
            server.destination (.ofTarget method target) = .ok (.service service offset query) ∧
              s.Spells query.toList ∧ AnswersRoute s answer) := by
  have hcore := core_answer surroundings hmiddlewares method target
  refine ⟨countsInside htable hservices method target, fun service offset query h elapsed => ?_, ?_⟩
  · rcases (stock_of_destination htable hservices h).run_cases elapsed offset query with
      ⟨answer, hrun, -⟩ | ⟨s, answer, hrun, -⟩
    · exact ⟨_, hrun⟩
    · exact ⟨_, hrun⟩
  rcases server.settles_or_submits (.ofTarget method target) with
    ⟨status, answer, hsettles⟩ | ⟨found, service, hsubmits⟩
  · refine ⟨status, answer, ?_, ?_⟩
    · rw [dispatch_of_settles surroundings hsettles] at hcore
      exact (Response.carries_ofContainer status answer).of_core hcore
    · rcases hsettles.namesFault with ⟨hstatus, found, hadmits, hhealth⟩ | ⟨hstatus, hfault⟩
      · refine ⟨.inl hstatus, fun hne => absurd hstatus hne, fun _ found' hmatch hroute => ?_⟩
        cases hadmits.path.symm.trans hmatch
        cases hhealth.symm.trans hroute
      · refine ⟨by omega, fun _ => hfault, fun hok => ?_⟩
        omega
  · have hdestination := destination_of_submits hsubmits
    have hdispatch := dispatch_of_service surroundings hdestination
    rcases (stock_of_destination htable hservices hdestination).run_cases surroundings.elapsed _ _
      with ⟨answer, hrun, hfault⟩ | ⟨s, answer, hrun, hs, hanswer⟩
    · rw [hrun] at hdispatch
      simp only [statusOf_of_namesFault hfault] at hdispatch
      rw [hdispatch] at hcore
      exact ⟨400, answer, (Response.carries_ofContainer 400 answer).of_core hcore, by omega,
        fun _ => hfault, fun h => by cases h⟩
    · rw [hrun] at hdispatch
      rw [hdispatch] at hcore
      exact ⟨200, answer, (Response.carries_ofContainer 200 answer).of_core hcore, .inl rfl,
        fun h => absurd rfl h, fun _ _ _ _ => ⟨service, _, _, s, hdestination, hs, hanswer⟩⟩

end Stock

/-- A buffer is asked for, and a class is excluded that the engine does not know. The refusal
goes out as a document. -/
theorem answer_of_stock_unknownClass :
    let service : Service := { engine := GreatCircle.toEngine {} }
    let server : Server :=
      { config := {}
        router := { Router.new with services := [("car", service)] }
        middlewares := [Middleware.logging, Middleware.cors] }
    let target := "/route/v1/car/1,1;2,2?exclude=path&format=flatbuffers"
    ∀ surroundings, ∃ answer, answer.NamesFault ∧
      (server.answer surroundings .get target).value.Carries 400 answer := by
  intro service server target surroundings
  have hservices : ∀ profile service, server.router.service? profile = some service →
      service.Stock := by
    intro profile service' h
    obtain ⟨entry, hentry, rfl⟩ := Option.map_eq_some_iff.mp h
    obtain rfl := List.mem_singleton.mp (List.mem_of_find?_eq_some hentry)
    exact ⟨rfl, {}, rfl⟩
  have hmiddlewares : ∀ m ∈ server.middlewares, m.Neutral := by
    intro m hm
    rcases List.mem_pair.mp hm with rfl | rfl
    · exact Middleware.logging_neutral
    · exact Middleware.cors_neutral "*"
  let r : RouteTarget :=
    { profile := "car".toList
      coordinates := some "1,1;2,2".toList
      query := some "exclude=path&format=flatbuffers".toList
      profile_part := ⟨⟨by decide, by decide⟩, by decide⟩
      coordinates_part := fun c hc => Option.some.inj hc ▸ ⟨⟨by decide, by decide⟩, by decide⟩ }
  have htext : r.text = target.toList := by decide
  have hdestination : server.destination (.ofTarget .get target) =
      .ok (.service service 14 "1,1;2,2?exclude=path&format=flatbuffers") := by
    rw [destination_of_names rfl (RouteTarget.names_ofTarget htext)]
    rfl
  let refusal : Container :=
    (Container.error "InvalidValue" "Exclude flag combination is not supported.").insert
      Service.durationField (.int (min surroundings.elapsed Service.maxElapsed : Nat))
  have hrefusal : refusal.NamesFault :=
    (Container.namesFault_error _ _).insert (by decide) (by decide) _
  have hrun : (service.run surroundings.elapsed 14
      "1,1;2,2?exclude=path&format=flatbuffers").value = .ok (.error, refusal) := rfl
  have hcore := core_answer surroundings hmiddlewares .get target
  rw [dispatch_of_service surroundings hdestination, hrun] at hcore
  have hstatus : (server.answer surroundings .get target).value.status = 400 :=
    (Response.core_eq_iff.mp hcore).1.trans (statusOf_of_namesFault hrefusal)
  obtain ⟨-, -, status, answer, hcarries, -, hfault, -⟩ :=
    answer_of_stock rfl hservices hmiddlewares surroundings .get target
  obtain rfl : 400 = status := hstatus.symm.trans hcarries.status
  exact ⟨answer, hfault (by decide), hcarries⟩

end Server

end RoutingGateway
