/-
A request from the network, and the same request without one.

The gateway can be asked over a connection (`Server.handle`) or directly
(`Server.answer`). The one takes a URI that was read and the headers of a client,
the other a target as a text. For a path with a query both make the same request
but for its headers (`Request.ofUri_eq_ofTarget`), and no header decides where a
request goes. Behind the middlewares of this library the responses therefore agree
(`handle_agrees`), up to what differs by its nature: the name of the request, which
a client may bring, and the time the engine took.
-/
import RoutingGateway.GreatCircle
import RoutingGateway.Proofs.Http.Uri
import RoutingGateway.Proofs.Server.FrontEnd
import RoutingGateway.Proofs.Server.Styles

namespace RoutingGateway

open RoutingGateway.Http

/-- The responses are the same on the wire, but that they stand under these names and that their
answers may tell different times. -/
structure Http.WireResponse.SameButNameAndTime (wire wire' : WireResponse) (name name' : String) :
    Prop where
  status : wire.status = wire'.status
  /-- The name stands behind the content type; these and all other headers are the same. -/
  headers : ∃ contentType rest,
    wire.headers = ("content-type", contentType) :: (RequestId.header, name) :: rest ∧
      wire'.headers = ("content-type", contentType) :: (RequestId.header, name') :: rest
  body : ∃ answer answer' : Container, wire.body = answer.encode.body ∧
    wire'.body = answer'.encode.body ∧ answer.SameButTime answer'

theorem Container.SameButTime.contentType {answer answer' : Container}
    (h : answer.SameButTime answer') : answer.encode.contentType = answer'.encode.contentType := by
  rcases h with rfl | ⟨doc, elapsed, elapsed', rfl, rfl⟩
  · rfl
  · rfl

namespace Server

variable {server : Server} (surroundings surroundings' : Surroundings)

/-! ## Dispatch -/

/-- Requests with the same destination are answered by the same response but for the time. -/
theorem dispatch_sameButTime_of_destination {request request' : Request}
    (h : server.destination request = server.destination request') :
    (server.dispatch surroundings request).value.SameButTime
      (server.dispatch surroundings' request').value := by
  cases hdestination : server.destination request' with
  | error refusal =>
    rw [hdestination] at h
    rw [dispatch_of_error surroundings h, dispatch_of_error surroundings' hdestination]
    exact Response.sameButTime_ofContainer _ _
  | ok destination =>
    rw [hdestination] at h
    cases destination with
    | health =>
      rw [dispatch_of_health surroundings h, dispatch_of_health surroundings' hdestination]
      exact Response.sameButTime_ofContainer _ _
    | service service offset query =>
      exact dispatch_sameButTime surroundings surroundings' h hdestination
        (service.run_sameOutcome _ _ offset query)

/-- Where a request goes, its headers do not say. -/
theorem destination_request {text : String} (horigin : OriginForm text) {uri : Uri}
    (hread : Uri.read text = .ok uri) {arrival : Arrival} (huri : arrival.uri = uri)
    (method : Method) :
    server.destination (arrival.request method) =
      server.destination (.ofTarget method text) := by
  rw [Arrival.request, destination_setHeader, huri, Request.ofUri_eq_ofTarget horigin hread]
  rfl

/-! ## Behind the middlewares -/

/-- Behind the middlewares of this library the name of the request is the first header of a
response, and what stands behind it is the same for all requests. -/
theorem exists_headers_process (hmiddlewares : ∀ m ∈ server.middlewares, m.BuiltIn) :
    ∃ rest, ∀ surroundings request, isReadable surroundings.requestId = true →
      (server.process surroundings request).value.headers =
        (RequestId.header, nameOf surroundings request) :: rest := by
  obtain ⟨headers, hspare, hchain⟩ := Middleware.exists_setAll_of_sets
    fun m hm => (hmiddlewares m hm).exists_sets
  refine ⟨Middleware.putAll headers [], fun surroundings request hid => ?_⟩
  have hproceed := Middleware.runBefore_of_passes (named surroundings request) fun m hm =>
    (hmiddlewares m hm).neutral
  obtain ⟨response, hyields, hprocess⟩ := server.process_eq_foldr surroundings request
  rw [hprocess, hchain, answering_named request hid]
  refine Middleware.headers_setAll hspare ?_
  cases hyields with
  | early hbefore =>
    rw [hproceed] at hbefore
    cases hbefore
  | dispatched _ =>
    obtain ⟨status, container, hdispatch⟩ :=
      server.exists_ofContainer_dispatch surroundings (named surroundings request)
    rw [hdispatch, Response.setHeader, if_neg (by decide +kernel), RequestId.toLower_header]
    rfl

/-- Requests with the same destination go out as the same response, but for their names and the
time. -/
theorem wire_process_of_destination (hmiddlewares : ∀ m ∈ server.middlewares, m.BuiltIn)
    {request request' : Request} (h : server.destination request = server.destination request')
    (hid : isReadable surroundings.requestId = true)
    (hid' : isReadable surroundings'.requestId = true) :
    (server.process surroundings request).value.wire.SameButNameAndTime
      (server.process surroundings' request').value.wire
      (nameOf surroundings request) (nameOf surroundings' request') := by
  have hneutral : ∀ m ∈ server.middlewares, m.Neutral := fun m hm => (hmiddlewares m hm).neutral
  have hlegal : ∀ m ∈ server.middlewares, m.Legal := fun m hm => (hmiddlewares m hm).legal
  obtain ⟨rest, hheaders⟩ := exists_headers_process hmiddlewares
  obtain ⟨status, answer, answer', hcarries, hcarries', hsame⟩ :=
    dispatch_sameButTime_of_destination surroundings surroundings' h
  have hresponse := hcarries.of_core (core_process surroundings hneutral request)
  have hresponse' := hcarries'.of_core (core_process surroundings' hneutral request')
  rw [Response.wire_of_fault? (fault?_process hlegal hid),
    Response.wire_of_fault? (fault?_process hlegal hid')]
  refine ⟨?_, ⟨answer.encode.contentType, rest, ?_, ?_⟩,
    ⟨answer, answer', hresponse.body, hresponse'.body, hsame⟩⟩
  · simp only [hresponse.status, hresponse'.status]
  · rw [Response.allHeaders, hheaders surroundings request hid, hresponse.contentType]
  · rw [Response.allHeaders, hheaders surroundings' request' hid', hresponse'.contentType,
      hsame.contentType]

/-! ## Agreement -/

/-- A request that comes from no network brings no headers. -/
theorem header?_ofTarget (method : Method) (text name : String) :
    (Request.ofTarget method text).header? name = none := by
  unfold Request.ofTarget
  cases Text.cut '?' text.toList <;> rfl

/-- For a path with a query it makes no difference to the gateway whether it is asked over a
connection or directly. The request has the same path and the same query at the same place, and
the same route query for all coordinates in the path. The response on the wire is the same but for
the time, and it stands under the name that the client gave, if that can be read, and under a
name that is made up elsewhere. -/
theorem handle_agrees (hmiddlewares : ∀ m ∈ server.middlewares, m.BuiltIn) {text : String}
    (horigin : OriginForm text) {uri : Uri} (hread : Uri.read text = .ok uri) (method : Method)
    (headers : Headers) (client : String) {nanoseconds number nanoseconds' number' : Nat}
    (hid : surroundings.requestId = RequestId.generate nanoseconds number)
    (hid' : surroundings'.requestId = RequestId.generate nanoseconds' number') :
    let arrived := Request.ofUri method uri headers
    let told := Request.ofTarget method text
    let arrival : Arrival := { method := method.name, uri, headers, client }
    (arrived.path = told.path ∧ arrived.queryText = told.queryText ∧
      arrived.queryOffset = told.queryOffset ∧
      ∀ coordinates, arrived.pathQuery coordinates = told.pathQuery coordinates) ∧
    (server.handle surroundings arrival).value.SameButNameAndTime
      (server.answer surroundings' method text).value.wire
      ((headers.get? RequestId.header).getD surroundings.requestId) surroundings'.requestId := by
  intro arrived told arrival
  have hrequest : arrived = { told with headers } :=
    Request.ofUri_eq_ofTarget horigin hread method headers
  refine ⟨by rw [hrequest]; exact ⟨rfl, rfl, rfl, fun _ => rfl⟩, ?_⟩
  have hreadable : isReadable surroundings.requestId = true := hid ▸ isReadable_generate _ _
  have hreadable' : isReadable surroundings'.requestId = true := hid' ▸ isReadable_generate _ _
  have hdestination : server.destination (arrival.request method) =
      server.destination (told.setHeader clientHeader "test") := by
    rw [destination_setHeader]
    exact destination_request horigin hread rfl method
  have hwire := wire_process_of_destination surroundings surroundings' hmiddlewares hdestination
    hreadable hreadable'
  have hname : nameOf surroundings' (told.setHeader clientHeader "test") =
      surroundings'.requestId := by
    rw [nameOf, Request.header?_setHeader_of_ne _ (by decide +kernel), header?_ofTarget]
    rfl
  rw [nameOf_request, hname] at hwire
  rw [value_handle_of_known (Method.ofName?_name method)]
  exact hwire

/-- The client brings a name of its own, and a question mark with nothing behind it. -/
theorem handle_agrees_ownName :
    let server : Server :=
      { config := {}
        router := { Router.new with services := [("car", { engine := GreatCircle.toEngine {} })] }
        middlewares := [Middleware.logging, Middleware.cors "https://example.org"] }
    let arrival : Arrival :=
      { method := "GET"
        uri := { path := "/route/v1/car/1,1;2,2", query := some "" }
        headers := ⟨[("x-request-id", "abc")]⟩
        client := "127.0.0.1" }
    let surroundings : Surroundings :=
      { requestId := RequestId.generate 7 1, elapsed := 5, task := "0" }
    let surroundings' : Surroundings :=
      { requestId := RequestId.generate 8 2, elapsed := 6, task := "1" }
    (server.handle surroundings arrival).value.SameButNameAndTime
      (server.answer surroundings' .get "/route/v1/car/1,1;2,2?").value.wire
      "abc" surroundings'.requestId := by
  intro server arrival surroundings surroundings'
  have hmiddlewares : ∀ m ∈ server.middlewares, m.BuiltIn := by
    intro m hm
    rcases List.mem_pair.mp hm with rfl | rfl
    · exact .logging
    · exact .cors (by decide)
  have hread : Uri.read "/route/v1/car/1,1;2,2?" = .ok arrival.uri := by rfl
  have hname : (arrival.headers.get? RequestId.header).getD surroundings.requestId = "abc" := by
    decide +kernel
  obtain ⟨-, hwire⟩ := handle_agrees surroundings surroundings' hmiddlewares
    ⟨by decide, by decide⟩ hread .get arrival.headers arrival.client rfl rfl
  exact hname ▸ hwire

end Server

end RoutingGateway
