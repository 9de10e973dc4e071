/-
Responses that can be traced.

A request with a method that the gateway knows is answered under its name and
behind the hooks of all middlewares, whatever becomes of it: it may be turned down,
run into a failure of the engine, or be answered by a middleware (`handle_traceable`).
What the name and the hooks have put into the response goes out with it, as long as
every hook does no more than it may.

A method that the gateway does not know is refused in front of all this. The
gateway has no request for it that a middleware could see, so the response has
neither a name nor anything a hook would put there (`handle_untraceable`).
-/
import RoutingGateway.Proofs.Server.FrontEnd

namespace RoutingGateway

open RoutingGateway.Http

/-- A name that is found in a response is found among all headers that go out. -/
theorem Http.Response.find?_allHeaders {response : Response} {name : String}
    (h : response.header? RequestId.header = some name) :
    response.allHeaders.find? (fun entry => entry.1 = RequestId.header) =
      some (RequestId.header, name) := by
  rw [header?, RequestId.toLower_header] at h
  obtain ⟨⟨key, value⟩, hfind, rfl⟩ := Option.map_eq_some_iff.mp h
  have hfound := List.find?_some hfind
  have hkey : key = RequestId.header := of_decide_eq_true hfound
  have htype : decide ("content-type" = RequestId.header) = false := by decide
  rw [allHeaders, List.find?_cons, htype, hfind, hkey]

namespace Server

variable {server : Server} {surroundings : Surroundings}

/-- The response to a method that the gateway does not know, whatever the middlewares. -/
theorem value_handle_of_unknown {arrival : Arrival} (h : Method.ofName? arrival.method = none) :
    (server.handle surroundings arrival).value =
      { status := 405
        headers := [("content-type", "application/json; charset=UTF-8")]
        body := (Container.error "InvalidMethod" "Unsupported method").encode.body } := by
  rw [handle_of_unknown h, value_send, Refusal.response, Response.error,
    Response.wire_of_fault? (Response.fault?_ofContainer _ _)]
  rfl

/-- With a known method a request is answered under the name that the client gave, if that can be
read, and otherwise under one that is made up. What goes out is what became of the request,
behind the hooks of all middlewares. With any other method it is refused, and no middleware
makes a difference. -/
theorem handle_traceable (hlegal : ∀ m ∈ server.middlewares, m.Legal)
    (hkeeps : ∀ m ∈ server.middlewares, m.KeepsName) {nanoseconds number : Nat}
    (hid : surroundings.requestId = RequestId.generate nanoseconds number) (arrival : Arrival) :
    (∀ method, Method.ofName? arrival.method = some method →
      let request := named surroundings (arrival.request method)
      let name := (arrival.headers.get? RequestId.header).getD surroundings.requestId
      let wire := (server.handle surroundings arrival).value
      wire.headers.find? (fun entry => entry.1 = RequestId.header) =
          some (RequestId.header, name) ∧
        ∃ response answered, server.Yields surroundings (arrival.request method) response ∧
          answered = server.middlewares.foldr
            (fun m response => (m.after request response).value)
            (response.setHeader RequestId.header name) ∧
          wire =
            { status :=
                if 100 ≤ answered.status ∧ answered.status ≤ 999 then answered.status else 500
              headers := answered.allHeaders
              body := answered.body }) ∧
    (Method.ofName? arrival.method = none → ∀ middlewares,
      ({ server with middlewares }.handle surroundings arrival).value =
        { status := 405
          headers := [("content-type", "application/json; charset=UTF-8")]
          body := (Container.error "InvalidMethod" "Unsupported method").encode.body }) := by
  refine ⟨fun method hmethod => ?_, fun hunknown middlewares => value_handle_of_unknown hunknown⟩
  intro request name wire
  have hreadable : isReadable surroundings.requestId = true := hid ▸ isReadable_generate _ _
  have hname : nameOf surroundings (arrival.request method) = name :=
    nameOf_request surroundings arrival method
  have hfault : (server.process surroundings (arrival.request method)).value.fault? = none :=
    fault?_process hlegal hreadable
  have hwire : wire = (server.process surroundings (arrival.request method)).value.wire :=
    value_handle_of_known hmethod
  rw [Response.wire_of_fault? hfault] at hwire
  obtain ⟨response, hyields, hprocess⟩ :=
    server.process_eq_foldr surroundings (arrival.request method)
  rw [answering_named _ hreadable, hname] at hprocess
  refine ⟨?_, response, _, hyields, hprocess, hwire⟩
  rw [hwire]
  exact Response.find?_allHeaders (hname ▸ header?_process hkeeps hreadable)

/-- A middleware answers a request itself. Its response goes out under the name that the client
gave, with the headers for sharing. -/
theorem handle_traceable_early :
    let closed : Middleware := { before := fun _ => pure (.respond (.error 503 "Closed" "later")) }
    let server : Server :=
      { config := {}, router := Router.new, middlewares := [Middleware.cors, closed] }
    let surroundings : Surroundings :=
      { requestId := RequestId.generate 7 1, elapsed := 5, task := "0" }
    let arrival : Arrival :=
      { method := "POST"
        uri := { path := "/nowhere", query := none }
        headers := ⟨[("x-request-id", "abc")]⟩
        client := "127.0.0.1" }
    (server.handle surroundings arrival).value.headers.find?
      (fun entry => entry.1 = RequestId.header) = some (RequestId.header, "abc") := by
  intro closed server surroundings arrival
  have hcors : (Middleware.cors).BuiltIn := .cors (by decide)
  have hclosed : closed.Legal :=
    { before := fun request response h => by
        cases h
        exact Response.fault?_ofContainer _ _
      after := fun _ _ h => h }
  have hlegal : ∀ m ∈ server.middlewares, m.Legal := by
    intro m hm
    rcases List.mem_pair.mp hm with rfl | rfl
    · exact hcors.legal
    · exact hclosed
  have hkeeps : ∀ m ∈ server.middlewares, m.KeepsName := by
    intro m hm
    rcases List.mem_pair.mp hm with rfl | rfl
    · exact hcors.keepsName
    · exact fun _ _ => rfl
  have hname : (arrival.headers.get? RequestId.header).getD surroundings.requestId = "abc" := by
    decide +kernel
  have hid : surroundings.requestId = RequestId.generate 7 1 := rfl
  have hfind := ((handle_traceable hlegal hkeeps hid arrival).1 .post rfl).1
  rwa [hname] at hfind

/-- A request with the method TRACE, which the gateway does not know, and a name that can be
read: the response has no name, and none of the headers for sharing. -/
theorem handle_untraceable :
    let server : Server :=
      { config := {}, router := Router.new, middlewares := [Middleware.cors] }
    let surroundings : Surroundings :=
      { requestId := RequestId.generate 7 1, elapsed := 5, task := "0" }
    let arrival : Arrival :=
      { method := "TRACE"
        uri := { path := "/health", query := none }
        headers := ⟨[("x-request-id", "abc")]⟩
        client := "127.0.0.1" }
    (∀ m ∈ server.middlewares, m.Legal ∧ m.KeepsName) ∧
      ∀ entry ∈ (server.handle surroundings arrival).value.headers,
        entry.1 ≠ RequestId.header ∧ entry.1 ≠ "access-control-allow-origin" := by
  intro server surroundings arrival
  have hcors : (Middleware.cors).BuiltIn := .cors (by decide)
  refine ⟨fun m hm => ?_, fun entry hentry => ?_⟩
  · obtain rfl := List.mem_singleton.mp hm
    exact ⟨hcors.legal, hcors.keepsName⟩
  · rw [value_handle_of_unknown (by decide)] at hentry
    obtain rfl := List.mem_singleton.mp hentry
    decide

end Server

end RoutingGateway
