/-
The calls that answering a request makes.

On its way in a request passes the hooks of the middlewares in the order of registration.
The first one that answers ends this way: no hook behind it is called, and nothing is
dispatched. Where none answers, the request is dispatched, once (`Inward`). The response is
given the name of the request and goes out through the hooks of all middlewares in the
reverse order, also of those that have not seen the request (`Outward`).

A call shows in a run by what it logs, and a middleware may log whatever it likes. So
`process_passage` tells of any chain which calls are made and in which order: the log of a
run is that of these calls, one after the other.
-/
import RoutingGateway.Proofs.Server.FrontEnd
import RoutingGateway.Proofs.Service.Pipeline

namespace RoutingGateway.Server

open RoutingGateway.Http

/-! ## Calls -/

/-- A call that answering a request makes, with all that is handed to it. -/
inductive Call where
  | before (m : Middleware) (request : Request)
  | dispatch (request : Request)
  | after (m : Middleware) (request : Request) (response : Response)

def Call.isDispatch : Call → Bool
  | dispatch _ => true
  | _ => false

variable (server : Server) (surroundings : Surroundings) (request : Request)

/-- What a call logs. -/
def Call.events : Call → List Event
  | before m request => (m.before request).events
  | dispatch request => (server.dispatch surroundings request).events
  | after m request response => (m.after request response).events

/-! ## The way in -/

/-- The calls on the way in, and the response that it ends with. -/
inductive Inward (chain : List Middleware) : List Call → Response → Prop
  /-- All middlewares let the request pass. -/
  | through : (∀ m ∈ chain, (m.before request).value = .proceed) →
      Inward chain (chain.map (.before · request) ++ [.dispatch request])
        (server.dispatch surroundings request).value
  /-- One middleware answers the request, and those in front of it let it pass. -/
  | early {asked skipped : List Middleware} {last : Middleware} {response : Response} :
      chain = asked ++ last :: skipped → (∀ m ∈ asked, (m.before request).value = .proceed) →
      (last.before request).value = .respond response →
      Inward chain ((asked ++ [last]).map (.before · request)) response

/-- A run as far as the response on the inner side. -/
def enter (chain : List Middleware) : Logged Response := do
  match ← Middleware.runBefore request chain with
  | .proceed => server.dispatch surroundings request
  | .respond response => pure response

section Inward

variable {server surroundings request} {chain : List Middleware} {calls : List Call}
  {response : Response}

/-- A middleware that lets the request pass stands in front of the rest of the way. -/
theorem Inward.cons {m : Middleware} (hm : (m.before request).value = .proceed)
    (h : Inward server surroundings request chain calls response) :
    Inward server surroundings request (m :: chain) (.before m request :: calls) response := by
  cases h with
  | through hall => exact .through (List.forall_mem_cons.mpr ⟨hm, hall⟩)
  | early hchain hasked hlast =>
    rw [hchain]
    exact .early (List.cons_append ..).symm (List.forall_mem_cons.mpr ⟨hm, hasked⟩) hlast

/-- There is one dispatch where no middleware answers, and none elsewhere. -/
theorem Inward.countP_isDispatch (h : Inward server surroundings request chain calls response) :
    ((∀ m ∈ chain, (m.before request).value = .proceed) → calls.countP Call.isDispatch = 1) ∧
    (¬ (∀ m ∈ chain, (m.before request).value = .proceed) →
      calls.countP Call.isDispatch = 0) := by
  have hbefore : ∀ hooks : List Middleware,
      (hooks.map fun m => Call.before m request).countP Call.isDispatch = 0 := by
    intro hooks
    rw [List.countP_map]
    exact List.countP_eq_zero.mpr fun m _ => Bool.false_ne_true
  cases h with
  | through hall =>
    refine ⟨fun _ => ?_, fun hnot => absurd hall hnot⟩
    rw [List.countP_append, hbefore]
    rfl
  | @early asked skipped last _ hchain _ hlast =>
    refine ⟨fun hall => ?_, fun _ => hbefore _⟩
    have hpass := hall last (by rw [hchain]; simp)
    rw [hlast] at hpass
    cases hpass

variable (server surroundings request chain)

/-- A run comes to its response by the calls of a way in, and by no others. -/
theorem exists_inward : ∃ calls response, Inward server surroundings request chain calls response ∧
    enter server surroundings request chain =
      { value := response, events := calls.flatMap (Call.events server surroundings) } := by
  -- along the chain: what is added in front is one call, and perhaps the end of the way
  induction chain with
  | nil =>
    refine ⟨_, _, .through nofun, ?_⟩
    rw [enter, Logged.bind_eq]
    simp [Middleware.runBefore, Call.events]
  | cons m rest ih =>
    obtain ⟨calls, response, hrest, hrun⟩ := ih
    cases hm : (m.before request).value with
    | proceed =>
      refine ⟨_, response, hrest.cons hm, ?_⟩
      rw [enter, Logged.bind_eq] at hrun ⊢
      injection hrun with hvalue hevents
      simp only [Middleware.runBefore, Logged.value_bind, Logged.events_bind, hm, hvalue,
        List.append_assoc, hevents]
      rfl
    | respond response =>
      refine ⟨_, response, .early (List.nil_append _).symm nofun hm, ?_⟩
      rw [enter, Logged.bind_eq]
      simp [Middleware.runBefore, hm, Call.events]

end Inward

/-! ## The way out -/

/-- The calls on the way out, one for each middleware in this order. Each hook gets what the
one in front of it has made of the response. -/
inductive Outward : List Middleware → Response → List Call → Response → Prop
  | done (response : Response) : Outward [] response [] response
  | hook {m : Middleware} {rest : List Middleware} {response answered : Response}
      {calls : List Call} : Outward rest (m.after request response).value calls answered →
      Outward (m :: rest) response (.after m request response :: calls) answered

/-- The way out goes on behind the last hook. -/
theorem Outward.snoc {request : Request} {order : List Middleware} {response answered : Response}
    {calls : List Call} (h : Outward request order response calls answered) (m : Middleware) :
    Outward request (order ++ [m]) response (calls ++ [.after m request answered])
      (m.after request answered).value := by
  induction h with
  | done response => exact .hook (.done _)
  | hook _ ih => exact .hook ih

/-- The chain hands a response through its hooks from the last one to the first. -/
theorem exists_outward (chain : List Middleware) (response : Response) : ∃ calls,
    Outward request chain.reverse response calls
      (chain.foldr (fun m response => (m.after request response).value) response) ∧
    (Middleware.runAfter request chain response).events =
      calls.flatMap (Call.events server surroundings) := by
  -- the chain is walked from its first middleware, whose hook is the last one on the way out
  induction chain with
  | nil => exact ⟨[], .done response, rfl⟩
  | cons m rest ih =>
    obtain ⟨calls, hrest, hevents⟩ := ih
    refine ⟨_, by rw [List.reverse_cons]; exact hrest.snoc m, ?_⟩
    rw [Middleware.runAfter, Logged.events_bind, hevents, Middleware.runAfter_eq_foldr,
      List.flatMap_append]
    simp [Call.events]

/-! ## There and back -/

/-- A run is the way in and, with the name of the request, the way out. -/
theorem process_eq_enter : server.process surroundings request =
    enter server surroundings (named surroundings request) server.middlewares >>= fun response =>
      Middleware.runAfter (named surroundings request) server.middlewares
        (answering (named surroundings request) response) := by
  -- the two differ in where the logs are joined
  rw [process, enter]
  simp only [Logged.bind_eq, List.append_assoc]
  cases (Middleware.runBefore (named surroundings request) server.middlewares).value <;> rfl

/-- Answering a request calls the hooks of the middlewares for the request, in their order and
up to the first that answers; it dispatches the request where none answers, and nowhere else; and
it calls the hooks of all middlewares for the response, in the reverse order, once each. All of
them see the same request, which has its name. -/
theorem process_passage (nanoseconds number elapsed : Nat) (task : String) :
    let surroundings : Surroundings :=
      { requestId := RequestId.generate nanoseconds number, elapsed, task }
    let inner := named surroundings request
    let name := nameOf surroundings request
    inner.header? RequestId.header = some name ∧
    ∃ inward response outward answered,
      Inward server surroundings inner server.middlewares inward response ∧
      ((∀ m ∈ server.middlewares, (m.before inner).value = .proceed) →
        inward.countP Call.isDispatch = 1) ∧
      (¬ (∀ m ∈ server.middlewares, (m.before inner).value = .proceed) →
        inward.countP Call.isDispatch = 0) ∧
      Outward inner server.middlewares.reverse (response.setHeader RequestId.header name)
        outward answered ∧
      answered = server.middlewares.foldr (fun m response => (m.after inner response).value)
        (response.setHeader RequestId.header name) ∧
      server.process surroundings request =
        { value := answered
          events := (inward ++ outward).flatMap (Call.events server surroundings) } := by
  intro surroundings inner name
  have hreadable : isReadable surroundings.requestId = true := isReadable_generate _ _
  obtain ⟨inward, response, hinward, henter⟩ :=
    exists_inward server surroundings inner server.middlewares
  obtain ⟨outward, houtward, hevents⟩ :=
    exists_outward server surroundings inner server.middlewares
      (response.setHeader RequestId.header name)
  obtain ⟨hdispatched, hanswered⟩ := hinward.countP_isDispatch
  refine ⟨header?_named request hreadable, inward, response, outward, _, hinward, hdispatched,
    hanswered, houtward, rfl, ?_⟩
  rw [process_eq_enter, Logged.bind_eq, henter, answering_named request hreadable, hevents,
    Middleware.runAfter_eq_foldr, List.flatMap_append]

end RoutingGateway.Server
