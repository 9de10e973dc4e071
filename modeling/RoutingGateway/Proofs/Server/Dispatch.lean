/-
The dispatch of a request, and the middlewares around it.

The destination of a request decides how it is dispatched: a refusal and the
probe are answered at once, and a route query is run by its service. The
middlewares come in by what they leave of a response as it was: a view that
every middleware passes on shows of the answer what it shows of the dispatch
(`answer_of_passes`).
-/
import RoutingGateway.Proofs.Container
import RoutingGateway.Proofs.Middleware
import RoutingGateway.Server

namespace RoutingGateway

open RoutingGateway.Http

/-! ## What a response carries -/

/-- The response carries the answer under this status, whatever its other headers say. -/
structure Http.Response.Carries (response : Response) (status : Nat) (answer : Container) :
    Prop where
  status : response.status = status
  /-- The code is the string under that name in a document; otherwise there is none. -/
  code : ∀ code, response.code = some code ↔ answer.get? "code" = some (.string code)
  contentType : response.contentType = answer.encode.contentType
  body : response.body = answer.encode.body

theorem Http.Response.carries_ofContainer (status : Nat) (container : Container) :
    (Response.ofContainer status container).Carries status container :=
  ⟨rfl, fun _ => Container.code?_eq_some_iff, rfl, rfl⟩

/-- What a response carries shows without its headers. -/
theorem Http.Response.Carries.of_core {response response' : Response} {status : Nat}
    {answer : Container} (h : response.Carries status answer)
    (hcore : response'.core = response.core) : response'.Carries status answer := by
  obtain ⟨hstatus, hcode, htype, hbody⟩ := Response.core_eq_iff.mp hcore
  exact
    { status := hstatus.trans h.status
      code := hcode ▸ h.code
      contentType := htype.trans h.contentType
      body := hbody.trans h.body }

namespace Server

variable (server : Server) (surroundings : Surroundings)

/-! ## The ways of a request -/

theorem destination_setHeader (request : Request) (name value : String) :
    server.destination (request.setHeader name value) = server.destination request := by
  unfold Request.setHeader
  split <;> rfl

theorem destination_named (request : Request) :
    server.destination (named surroundings request) = server.destination request := by
  unfold named
  split
  · rfl
  · exact server.destination_setHeader request _ _

theorem dispatch_congr {request request' : Request}
    (h : server.destination request = server.destination request') :
    server.dispatch surroundings request = server.dispatch surroundings request' := by
  rw [dispatch, dispatch, h]

variable {server} in
theorem dispatch_of_error {request : Request} {refusal : Refusal}
    (h : server.destination request = .error refusal) :
    server.dispatch surroundings request = pure refusal.response := by
  rw [dispatch, h]

variable {server} in
theorem dispatch_of_health {request : Request} (h : server.destination request = .ok .health) :
    server.dispatch surroundings request = pure .health := by
  rw [dispatch, h]

variable {server} in
theorem dispatch_of_service {request : Request} {service : Service} {offset : Nat}
    {query : String} (h : server.destination request = .ok (.service service offset query)) :
    (server.dispatch surroundings request).value =
      match (service.run surroundings.elapsed offset query).value with
      | .ok (status, container) => .ofContainer (statusOf status container) container
      | .error _ => Refusal.engineFailed.response := by
  rw [dispatch, h, Logged.value_bind]
  cases (service.run surroundings.elapsed offset query).value <;> rfl

variable {server} in
/-- What a service logs in its run is logged. -/
theorem run_events_prefix_dispatch {request : Request} {service : Service} {offset : Nat}
    {query : String} (h : server.destination request = .ok (.service service offset query)) :
    (service.run surroundings.elapsed offset query).events <+:
      (server.dispatch surroundings request).events := by
  rw [dispatch, h, Logged.events_bind]
  exact List.prefix_append _ _

/-! ## Middlewares around the dispatch -/

section Passes

variable {server} {α : Type} {view : Response → α}
  (hname : ∀ response value, view (response.setHeader RequestId.header value) = view response)
  (hmiddlewares : ∀ m ∈ server.middlewares, m.Passes view)

include hname hmiddlewares

/-- A view that the name of a request does not change, and that every middleware passes on,
shows of an answer what it shows of the dispatch. -/
theorem process_of_passes (request : Request) :
    view (server.process surroundings request).value =
      view (server.dispatch surroundings request).value := by
  have hdispatch := server.dispatch_congr surroundings (server.destination_named surroundings request)
  have hanswering : ∀ request response, view (answering request response) = view response := by
    intro request response
    unfold answering
    split
    · exact hname response _
    · rfl
  rw [process, Logged.value_bind, Middleware.runBefore_of_passes _ hmiddlewares]
  simp only [Logged.value_bind]
  rw [Middleware.runAfter_of_passes _ hmiddlewares, hanswering, hdispatch]

theorem answer_of_passes (method : Method) (target : String) :
    view (server.answer surroundings method target).value =
      view (server.dispatch surroundings (.ofTarget method target)).value := by
  rw [answer, process_of_passes surroundings hname hmiddlewares, server.dispatch_congr surroundings
    (server.destination_setHeader (.ofTarget method target) clientHeader "test")]

end Passes

section Neutral

variable {server : Server} (hmiddlewares : ∀ m ∈ server.middlewares, m.Neutral)

include hmiddlewares

/-- Behind neutral middlewares a response is what was dispatched but for the headers. -/
theorem core_process (request : Request) :
    (server.process surroundings request).value.core =
      (server.dispatch surroundings request).value.core :=
  process_of_passes surroundings (Response.core_setHeader (by decide +kernel)) hmiddlewares request

theorem core_answer (method : Method) (target : String) :
    (server.answer surroundings method target).value.core =
      (server.dispatch surroundings (.ofTarget method target)).value.core :=
  answer_of_passes surroundings (Response.core_setHeader (by decide +kernel)) hmiddlewares method
    target

end Neutral

/-- Behind transparent middlewares an answer has the code and the body of its
dispatch. -/
theorem answer_of_transparent (hmiddlewares : ∀ m ∈ server.middlewares, m.Transparent)
    (method : Method) (target : String) :
    (server.answer surroundings method target).value.code =
        (server.dispatch surroundings (.ofTarget method target)).value.code ∧
      (server.answer surroundings method target).value.body =
        (server.dispatch surroundings (.ofTarget method target)).value.body :=
  Prod.mk.inj (answer_of_passes surroundings (by simp) (fun m hm => (hmiddlewares m hm).passes)
    method target)

end Server

end RoutingGateway
