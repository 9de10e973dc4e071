/-
What a request is answered, case by case.

A request is answered by the first case that applies to it. In all cases but
one the answer is settled by the path, the method and the register of profiles
(`Settles`): no service is asked, and what the services are made of makes no
difference. In the last case (`Submits`) a service runs the text of the route
query, and the outcome of the run decides the response (`Concludes`).
`dispatch_decides` says that every request is in one of the cases, and how it is
answered in each.
-/
import RoutingGateway.Proofs.Path.BuiltIn
import RoutingGateway.Proofs.Server.Dispatch

namespace RoutingGateway

open RoutingGateway.Http

namespace Server

/-! ## Cases of a request -/

variable {server : Server} (surroundings : Surroundings)

/-- The path of the request is known, and the method is the one to ask with. -/
structure Admits (server : Server) (request : Request) (found : Path.Match Endpoint) : Prop where
  path : server.router.table.match? request.path = some found
  method : request.method = .get

/-- The request asks for a route, with a profile that has this service. -/
structure Asks (server : Server) (request : Request) (found : Path.Match Endpoint)
    (service : Service) : Prop extends Admits server request found where
  endpoint : found.value = .route
  registered : ∃ profile, found.profile? = some profile ∧
    server.router.service? profile = some service

/-- The text that is asked with: the last segment of a path that holds coordinates, with
the query behind a question mark unless it is empty, and otherwise the query. -/
def askedText (request : Request) (found : Path.Match Endpoint) : String :=
  match found.coordinates? with
  | none => request.queryText
  | some segment =>
    if request.queryText = "" then segment else segment ++ "?" ++ request.queryText

/-- The request goes to a service with a text that is not too long. -/
structure Submits (server : Server) (request : Request) (found : Path.Match Endpoint)
    (service : Service) : Prop extends Asks server request found service where
  fits : (askedText request found).utf8ByteSize ≤ server.config.maxQueryLength

/-- The cases that are settled without a service, with the status and the answer. A case
applies where none in front of it does. -/
inductive Settles (server : Server) (request : Request) : Nat → Container → Prop
  | pathUnknown : server.router.table.match? request.path = none →
      Settles server request 404
        (.error "InvalidUrl" ("URL " ++ request.path ++ " not found"))
  | methodNotAllowed {found : Path.Match Endpoint} :
      server.router.table.match? request.path = some found → request.method ≠ .get →
      Settles server request 405
        (.error "InvalidMethod" ("Method " ++ request.method.name ++ " not allowed"))
  | health {found : Path.Match Endpoint} : server.Admits request found → found.value = .health →
      Settles server request 200 (.document ⟨[("status", .string "ok")]⟩)
  | profileMissing {found : Path.Match Endpoint} : server.Admits request found →
      found.value = .route → found.profile? = none →
      Settles server request 404 (.error "InvalidUrl" "Missing profile")
  | profileUnknown {found : Path.Match Endpoint} {profile : String} :
      server.Admits request found → found.value = .route → found.profile? = some profile →
      server.router.service? profile = none →
      Settles server request 404 (.error "InvalidService" ("Profile " ++ profile ++ " not found!"))
  | queryTooLong {found : Path.Match Endpoint} {service : Service} :
      server.Asks request found service →
      server.config.maxQueryLength < (askedText request found).utf8ByteSize →
      Settles server request 414 (.error "TooBig" ("Query string longer than " ++
        toString server.config.maxQueryLength ++ " bytes"))

/-- What the outcome of a run is answered with. An answer that names a code is the fault of
the request; any other failure is the gateway's. -/
inductive Concludes : Except Panic (Status × Container) → Nat → Container → Prop
  | ok {answer : Container} : Concludes (.ok (.ok, answer)) 200 answer
  | faulty {answer : Container} {code : String} : answer.get? "code" = some (.string code) →
      Concludes (.ok (.error, answer)) 400 answer
  | failed {answer : Container} : (∀ code, answer.get? "code" ≠ some (.string code)) →
      Concludes (.ok (.error, answer)) 500 answer
  | panicked {panic : Panic} :
      Concludes (.error panic) 500 (.error "InternalError" "Route dispatch failed")

/-! ## Destinations -/

theorem routeQuery_snd (request : Request) (found : Path.Match Endpoint) :
    (routeQuery request found).2 = askedText request found := by
  unfold routeQuery askedText
  cases found.coordinates? with
  | none => rfl
  | some segment =>
    unfold Request.pathQuery Request.queryText
    cases request.query <;> simp

theorem destination_of_unknown {request : Request}
    (h : server.router.table.match? request.path = none) :
    server.destination request = .error (.pathUnknown request.path) := by
  rw [destination, Router.matchPath, h]
  rfl

theorem destination_of_method {request : Request} {found : Path.Match Endpoint}
    (h : server.router.table.match? request.path = some found) (hmethod : request.method ≠ .get) :
    server.destination request = .error (.methodNotAllowed request.method) := by
  rw [destination, Router.matchPath, h]
  simp only [if_pos hmethod]
  rfl

/-- Behind path and method the endpoint decides, and for a route the register of profiles. -/
theorem destination_of_admits {request : Request} {found : Path.Match Endpoint}
    (h : server.Admits request found) :
    server.destination request =
      match found.value with
      | .health => .ok .health
      | .route =>
        match found.profile? with
        | none => .error .profileMissing
        | some profile =>
          match server.router.service? profile with
          | none => .error (.profileUnknown profile)
          | some service =>
            if server.config.maxQueryLength < (askedText request found).utf8ByteSize then
              .error (.queryTooLong server.config.maxQueryLength)
            else .ok (.service service (routeQuery request found).1 (askedText request found)) := by
  rw [destination, Router.matchPath, h.path, ← routeQuery_snd]
  simp only [if_neg (not_not_intro h.method)]
  cases found.value with
  | health => rfl
  | route =>
    cases found.profile? with
    | none => rfl
    | some profile =>
      dsimp only
      cases server.router.service? profile with
      | none => rfl
      | some service =>
        by_cases hlong : server.config.maxQueryLength < (routeQuery request found).2.utf8ByteSize
        · simp only [if_pos hlong]
          rfl
        · simp only [if_neg hlong]
          rfl

/-! ## The cases are all cases -/

theorem settles_or_submits (server : Server) (request : Request) :
    (∃ status answer, server.Settles request status answer) ∨
      ∃ found service, server.Submits request found service := by
  cases hpath : server.router.table.match? request.path with
  | none => exact .inl ⟨_, _, .pathUnknown hpath⟩
  | some found =>
    by_cases hmethod : request.method = .get
    · have hadmits : server.Admits request found := ⟨hpath, hmethod⟩
      cases hendpoint : found.value with
      | health => exact .inl ⟨_, _, .health hadmits hendpoint⟩
      | route =>
        cases hprofile : found.profile? with
        | none => exact .inl ⟨_, _, .profileMissing hadmits hendpoint hprofile⟩
        | some profile =>
          cases hservice : server.router.service? profile with
          | none => exact .inl ⟨_, _, .profileUnknown hadmits hendpoint hprofile hservice⟩
          | some service =>
            have hasks : server.Asks request found service :=
              ⟨hadmits, hendpoint, profile, hprofile, hservice⟩
            rcases Nat.lt_or_ge server.config.maxQueryLength
              (askedText request found).utf8ByteSize with hlong | hfits
            · exact .inl ⟨_, _, .queryTooLong hasks hlong⟩
            · exact .inr ⟨found, service, hasks, hfits⟩
    · exact .inl ⟨_, _, .methodNotAllowed hpath hmethod⟩

/-! ## Other services under the same profiles -/

/-- The server with other services under its profiles. -/
def mapServices (server : Server) (change : Service → Service) : Server :=
  { server with
    router :=
      { server.router with
        services := server.router.services.map fun s => (s.1, change s.2) } }

theorem service?_mapServices (change : Service → Service) (profile : String) :
    (server.mapServices change).router.service? profile =
      (server.router.service? profile).map change := by
  simp only [mapServices, Router.service?, List.find?_map, Option.map_map]
  rfl

theorem Admits.mapServices {request : Request} {found : Path.Match Endpoint}
    (h : server.Admits request found) (change : Service → Service) :
    (server.mapServices change).Admits request found := ⟨h.path, h.method⟩

theorem Asks.mapServices {request : Request} {found : Path.Match Endpoint} {service : Service}
    (h : server.Asks request found service) (change : Service → Service) :
    (server.mapServices change).Asks request found (change service) := by
  obtain ⟨hadmits, hendpoint, profile, hprofile, hservice⟩ := h
  refine ⟨hadmits.mapServices change, hendpoint, profile, hprofile, ?_⟩
  rw [service?_mapServices, hservice]
  rfl

theorem Submits.mapServices {request : Request} {found : Path.Match Endpoint} {service : Service}
    (h : server.Submits request found service) (change : Service → Service) :
    (server.mapServices change).Submits request found (change service) :=
  ⟨h.toAsks.mapServices change, h.fits⟩

/-- A case that is settled without a service is settled whatever the services are. -/
theorem Settles.mapServices {request : Request} {status : Nat} {answer : Container}
    (h : server.Settles request status answer) (change : Service → Service) :
    (server.mapServices change).Settles request status answer := by
  cases h with
  | pathUnknown hpath => exact .pathUnknown hpath
  | methodNotAllowed hpath hmethod => exact .methodNotAllowed hpath hmethod
  | health hadmits hendpoint => exact .health (hadmits.mapServices change) hendpoint
  | profileMissing hadmits hendpoint hprofile =>
    exact .profileMissing (hadmits.mapServices change) hendpoint hprofile
  | profileUnknown hadmits hendpoint hprofile hservice =>
    refine .profileUnknown (hadmits.mapServices change) hendpoint hprofile ?_
    rw [service?_mapServices, hservice]
    rfl
  | queryTooLong hasks hlong => exact .queryTooLong (hasks.mapServices change) hlong

/-! ## Answers by cases -/

theorem dispatch_of_settles {request : Request} {status : Nat} {answer : Container}
    (h : server.Settles request status answer) :
    server.dispatch surroundings request = pure (.ofContainer status answer) := by
  cases h with
  | pathUnknown hpath => exact dispatch_of_error surroundings (destination_of_unknown hpath)
  | methodNotAllowed hpath hmethod =>
    exact dispatch_of_error surroundings (destination_of_method hpath hmethod)
  | health hadmits hendpoint =>
    have hdestination : server.destination request = .ok .health := by
      rw [destination_of_admits hadmits, hendpoint]
    exact dispatch_of_health surroundings hdestination
  | profileMissing hadmits hendpoint hprofile =>
    have hdestination : server.destination request = .error .profileMissing := by
      rw [destination_of_admits hadmits, hendpoint]
      simp only [hprofile]
    exact dispatch_of_error surroundings hdestination
  | @profileUnknown found profile hadmits hendpoint hprofile hservice =>
    have hdestination : server.destination request = .error (.profileUnknown profile) := by
      rw [destination_of_admits hadmits, hendpoint]
      simp only [hprofile, hservice]
    exact dispatch_of_error surroundings hdestination
  | queryTooLong hasks hlong =>
    obtain ⟨hadmits, hendpoint, profile, hprofile, hservice⟩ := hasks
    have hdestination : server.destination request =
        .error (.queryTooLong server.config.maxQueryLength) := by
      rw [destination_of_admits hadmits, hendpoint]
      simp only [hprofile, hservice, if_pos hlong]
    exact dispatch_of_error surroundings hdestination

theorem destination_of_submits {request : Request} {found : Path.Match Endpoint}
    {service : Service} (h : server.Submits request found service) :
    server.destination request =
      .ok (.service service (routeQuery request found).1 (askedText request found)) := by
  obtain ⟨⟨hadmits, hendpoint, profile, hprofile, hservice⟩, hfits⟩ := h
  rw [destination_of_admits hadmits, hendpoint]
  simp only [hprofile, hservice, if_neg (Nat.not_lt_of_le hfits)]

/-- The outcome of a run is answered under the status that goes with it. -/
theorem exists_concludes {request : Request} {service : Service} {offset : Nat} {query : String}
    (h : server.destination request = .ok (.service service offset query)) :
    ∃ status answer,
      Concludes (service.run surroundings.elapsed offset query).value status answer ∧
        (server.dispatch surroundings request).value = .ofContainer status answer := by
  rw [dispatch_of_service surroundings h]
  cases (service.run surroundings.elapsed offset query).value with
  | error panic => exact ⟨500, _, .panicked, rfl⟩
  | ok outcome =>
    obtain ⟨status, answer⟩ := outcome
    cases status with
    | ok => exact ⟨200, answer, .ok, rfl⟩
    | error =>
      cases hcode : answer.code? with
      | some code =>
        have hget := Container.code?_eq_some_iff.mp hcode
        exact ⟨400, answer, .faulty hget, by simp [statusOf, hcode]⟩
      | none =>
        have hget : ∀ code, answer.get? "code" ≠ some (.string code) := fun code h => by
          rw [Container.code?_eq_some_iff.mpr h] at hcode
          cases hcode
        exact ⟨500, answer, .failed hget, by simp [statusOf, hcode]⟩

/-- How a request is answered, by the first case that applies. In a case that is settled
without a service the response carries the answer of the case; it does so whatever
the services are and nothing is logged, so no parser and no engine runs. In the
last case the service of the profile runs the text that is asked with, and the
response carries what its outcome concludes. There are no other cases. -/
theorem dispatch_decides (server : Server) (surroundings : Surroundings) (request : Request) :
    (∀ status answer, server.Settles request status answer → ∀ change,
      ((server.mapServices change).dispatch surroundings request).events = [] ∧
      ((server.mapServices change).dispatch surroundings request).value.Carries status answer) ∧
    (∀ found service, server.Submits request found service → ∀ change : Service → Service,
      let run := (change service).run surroundings.elapsed (routeQuery request found).1
        (askedText request found)
      ∃ status answer, Concludes run.value status answer ∧
        ((server.mapServices change).dispatch surroundings request).value.Carries status answer ∧
        run.events <+: ((server.mapServices change).dispatch surroundings request).events) ∧
    ((∃ status answer, server.Settles request status answer) ∨
      ∃ found service, server.Submits request found service) := by
  refine ⟨fun status answer h change => ?_, fun found service h change => ?_,
    server.settles_or_submits request⟩
  · rw [dispatch_of_settles surroundings (h.mapServices change)]
    exact ⟨rfl, Response.carries_ofContainer status answer⟩
  · have hdestination := destination_of_submits (h.mapServices change)
    obtain ⟨status, answer, hconcludes, hresponse⟩ := exists_concludes surroundings hdestination
    refine ⟨status, answer, hconcludes, ?_, run_events_prefix_dispatch surroundings hdestination⟩
    rw [hresponse]
    exact Response.carries_ofContainer status answer

/-- An engine fails with a document whose code is no string: the failure is the gateway's, and
the response has no code. The empty query adds no question mark to the text, which just fits. A
longer text for a profile that is not registered is answered by the earlier case. -/
theorem dispatch_decides_numberCode :
    let answer : Container := .document ⟨[("code", .int 3)]⟩
    let service : Service := { engine := { route := fun _ _ => pure (.ok (.error, answer)) } }
    let server : Server :=
      { config := { maxQueryLength := 7 }
        router := { Router.new with services := [("car", service)] }
        middlewares := [] }
    let surroundings : Surroundings := { requestId := "a", elapsed := 5, task := "0" }
    (server.dispatch surroundings (.ofTarget .get "/route/v1/car/1,1;2,2?")).value.Carries 500
        (answer.insert Service.durationField (.int 5)) ∧
      (server.dispatch surroundings (.ofTarget .get "/route/v1/bus/1,1;2,2?x")).value.Carries 404
        (.error "InvalidService" "Profile bus not found!") := by
  intro answer service server surroundings
  let found (profile : String) : Path.Match Endpoint :=
    { value := .route, parameters := [("profile", profile), ("coordinates", "1,1;2,2")] }
  have hlist : Path.Segment "1,1;2,2".toList := ⟨by decide, by decide⟩
  have hcar : Path.Segment "car".toList := ⟨by decide, by decide⟩
  have hbus : Path.Segment "bus".toList := ⟨by decide, by decide⟩
  have hcarPath : server.router.table.match? "/route/v1/car/1,1;2,2" = some (found "car") := by
    have hmatch := Path.match?_coordinates hcar hlist
    rwa [show String.ofList (Path.routeStart.toList ++ ("car".toList ++ '/' :: "1,1;2,2".toList)) =
      "/route/v1/car/1,1;2,2" by decide] at hmatch
  have hbusPath : server.router.table.match? "/route/v1/bus/1,1;2,2" = some (found "bus") := by
    have hmatch := Path.match?_coordinates hbus hlist
    rwa [show String.ofList (Path.routeStart.toList ++ ("bus".toList ++ '/' :: "1,1;2,2".toList)) =
      "/route/v1/bus/1,1;2,2" by decide] at hmatch
  have hsubmits : server.Submits (.ofTarget .get "/route/v1/car/1,1;2,2?") (found "car") service :=
    { path := hcarPath, method := rfl, endpoint := rfl
      registered := ⟨"car", rfl, rfl⟩
      fits := by decide }
  have hadmits : server.Admits (.ofTarget .get "/route/v1/bus/1,1;2,2?x") (found "bus") :=
    ⟨hbusPath, rfl⟩
  have hprofile : (found "bus").profile? = some "bus" := rfl
  have hsettles : server.Settles (.ofTarget .get "/route/v1/bus/1,1;2,2?x") 404
      (.error "InvalidService" "Profile bus not found!") :=
    .profileUnknown hadmits rfl hprofile rfl
  obtain ⟨status, answer', hconcludes, hcarries, -⟩ :=
    (dispatch_decides server surroundings _).2.1 (found "car") service hsubmits id
  have hrun : (service.run 5 14 "1,1;2,2").value =
      .ok (.error, answer.insert Service.durationField (.int 5)) := rfl
  change Concludes (service.run 5 14 "1,1;2,2").value status answer' at hconcludes
  rw [hrun] at hconcludes
  refine ⟨?_, ((dispatch_decides server surroundings _).1 _ _ hsettles id).2⟩
  cases hconcludes with
  | faulty hcode => cases hcode
  | failed _ => exact hcarries

end Server

end RoutingGateway
