/-
The way of a request through the front end.

A request with a known method gets a name, unless it brings one, and passes the
chain. What becomes of it on the inner side is one response: that of the first
middleware which answers, or that of the dispatch (`Yields`). This response is
given the name of the request and handed to the hooks of all middlewares, the last
one first (`process_eq_foldr`).

Hooks may put anything into a response, and a header that cannot be sent spoils
all of it. So there are two things to ask of a middleware: that it is `Legal`, and
sets and returns only headers that can be sent, and that it `KeepsName`, and
leaves the name of the request alone. A chain of such middlewares passes both on.
The middlewares of this library are of this kind (`BuiltIn`): all that they do to a
response is to set headers, and so does a chain of them (`exists_setAll_of_sets`).
-/
import RoutingGateway.FrontEnd
import RoutingGateway.Proofs.Http.Header
import RoutingGateway.Proofs.Middleware

namespace RoutingGateway

open RoutingGateway.Http

theorem Http.Method.ofName?_name (method : Method) : Method.ofName? method.name = some method := by
  cases method <;> decide

theorem Http.RequestId.toLower_header : RequestId.header.toLower = RequestId.header := by
  decide +kernel

/-! ## Responses that can be sent -/

namespace Http.Response

theorem fault?_ofContainer (status : Nat) (container : Container) :
    (ofContainer status container).fault? = none := by
  have hdocument : headerFault? "content-type" Container.documentType = none := by decide +kernel
  have hbuffer : headerFault? "content-type" Container.bufferType = none := by decide +kernel
  cases container with
  | document doc => exact fault?_eq_none_iff.mpr ⟨hdocument, nofun⟩
  | buffer bytes => exact fault?_eq_none_iff.mpr ⟨hbuffer, nofun⟩

/-- A response without a fault goes out with its headers and its body. -/
theorem wire_of_fault? {response : Response} (h : response.fault? = none) :
    response.wire =
      { status := if 100 ≤ response.status ∧ response.status ≤ 999 then response.status else 500
        headers := response.allHeaders, body := response.body } := by
  rw [wire, h]

end Http.Response

/-! ## Chains -/

namespace Middleware

/-- All headers that the middleware sets, and those of a response that it returns, can be
sent. -/
structure Legal (m : Middleware) : Prop where
  before : ∀ request response, (m.before request).value = .respond response →
    response.fault? = none
  after : ∀ request response, response.fault? = none →
    (m.after request response).value.fault? = none

/-- The hook for responses leaves the name of the request as it is. -/
def KeepsName (m : Middleware) : Prop := ∀ request response,
  (m.after request response).value.header? RequestId.header = response.header? RequestId.header

variable {middlewares : List Middleware} {request : Request}

/-- A response passes the hooks one after the other, the last one first. -/
theorem runAfter_eq_foldr (request : Request) (middlewares : List Middleware)
    (response : Response) :
    (runAfter request middlewares response).value =
      middlewares.foldr (fun m response => (m.after request response).value) response := by
  induction middlewares with
  | nil => rfl
  | cons m rest ih => rw [runAfter, Logged.value_bind, ih, List.foldr_cons]

/-- What every hook passes on, the chain passes on. -/
theorem foldr_after (P : Response → Prop)
    (h : ∀ m ∈ middlewares, ∀ response, P response → P (m.after request response).value)
    {response : Response} (hresponse : P response) :
    P (middlewares.foldr (fun m response => (m.after request response).value) response) := by
  induction middlewares with
  | nil => exact hresponse
  | cons m rest ih =>
    have hrest := ih fun m' hm' => h m' (List.mem_cons_of_mem m hm')
    exact h m List.mem_cons_self _ hrest

/-- A response in front of the dispatch comes from one of the middlewares. -/
theorem exists_before_of_runBefore {response : Response}
    (h : (runBefore request middlewares).value = .respond response) :
    ∃ m ∈ middlewares, (m.before request).value = .respond response := by
  induction middlewares with
  | nil => cases h
  | cons m rest ih =>
    rw [runBefore, Logged.value_bind] at h
    cases hm : (m.before request).value with
    | proceed =>
      rw [hm] at h
      obtain ⟨m', hm', hrespond⟩ := ih h
      exact ⟨m', List.mem_cons_of_mem m hm', hrespond⟩
    | respond response' =>
      rw [hm] at h
      cases h
      exact ⟨m, List.mem_cons_self, hm⟩

/-! ## Middlewares that set headers -/

/-- A header that can be sent, besides the content type and the name of the request. -/
structure Spare (header : String × String) : Prop where
  type : header.1.toLower ≠ "content-type"
  name : header.1.toLower ≠ RequestId.header
  fault : headerFault? header.1.toLower header.2 = none

/-- Sets headers one after the other. -/
def setAll (headers : List (String × String)) (response : Response) : Response :=
  headers.foldl (fun response header => response.setHeader header.1 header.2) response

/-- What that does to the headers of a response. -/
def putAll (headers rest : List (String × String)) : List (String × String) :=
  headers.foldl (fun rest header => Response.putHeader header.1.toLower header.2 rest) rest

/-- What setting a spare header passes on, setting all of them passes on. -/
theorem setAll_induction (P : Response → Prop)
    (h : ∀ header, Spare header → ∀ response, P response → P (response.setHeader header.1 header.2))
    {headers : List (String × String)} (hspare : ∀ header ∈ headers, Spare header)
    {response : Response} (hresponse : P response) : P (setAll headers response) := by
  induction headers generalizing response with
  | nil => exact hresponse
  | cons header rest ih =>
    obtain ⟨hheader, hrest⟩ := List.forall_mem_cons.mp hspare
    exact ih hrest (h header hheader response hresponse)

/-- Headers are set behind the name of the request. -/
theorem headers_setAll {headers : List (String × String)}
    (hspare : ∀ header ∈ headers, Spare header) {response : Response} {name : String}
    {rest : List (String × String)}
    (h : response.headers = (RequestId.header, name) :: rest) :
    (setAll headers response).headers = (RequestId.header, name) :: putAll headers rest := by
  induction headers generalizing response rest with
  | nil => exact h
  | cons header more ih =>
    obtain ⟨hheader, hmore⟩ := List.forall_mem_cons.mp hspare
    have hset : (response.setHeader header.1 header.2).headers =
        (RequestId.header, name) :: Response.putHeader header.1.toLower header.2 rest := by
      rw [Response.setHeader, if_neg hheader.type, h]
      exact if_neg hheader.name.symm
    exact ih hmore hset

/-- The middleware answers no request, and sets these headers of a response. -/
structure Sets (m : Middleware) (headers : List (String × String)) : Prop where
  proceeds : ∀ request, (m.before request).value = .proceed
  spare : ∀ header ∈ headers, Spare header
  after : ∀ request response, (m.after request response).value = setAll headers response

section Sets

variable {m : Middleware} {headers : List (String × String)} (h : m.Sets headers)

include h

theorem Sets.neutral : m.Neutral where
  proceeds := h.proceeds
  keeps request response := by
    rw [h.after]
    exact setAll_induction (fun r => r.core = response.core)
      (fun header hheader r hr => (Response.core_setHeader hheader.type r _).trans hr) h.spare rfl

theorem Sets.legal : m.Legal where
  before request response hrespond := by
    rw [h.proceeds] at hrespond
    cases hrespond
  after request response hfault := by
    rw [h.after]
    exact setAll_induction (fun r => r.fault? = none)
      (fun header hheader r hr => Response.fault?_setHeader hr hheader.type hheader.fault)
      h.spare hfault

theorem Sets.keepsName : m.KeepsName := fun request response => by
  rw [h.after]
  exact setAll_induction (fun r => r.header? RequestId.header = response.header? RequestId.header)
    (fun header hheader r hr =>
      (r.header?_setHeader_of_ne (RequestId.toLower_header.symm ▸ hheader.name.symm) _).trans hr)
    h.spare rfl

end Sets

/-- A chain of such middlewares sets the headers of all of them. -/
theorem exists_setAll_of_sets (h : ∀ m ∈ middlewares, ∃ headers, m.Sets headers) :
    ∃ headers, (∀ header ∈ headers, Spare header) ∧ ∀ request response,
      middlewares.foldr (fun m response => (m.after request response).value) response =
        setAll headers response := by
  induction middlewares with
  | nil => exact ⟨[], nofun, fun _ _ => rfl⟩
  | cons m rest ih =>
    obtain ⟨headers, hm⟩ := h m List.mem_cons_self
    obtain ⟨more, hmore, hrest⟩ := ih fun m' hm' => h m' (List.mem_cons_of_mem m hm')
    have hspare := List.forall_mem_append.mpr ⟨hmore, hm.spare⟩
    refine ⟨more ++ headers, hspare, fun request response => ?_⟩
    rw [List.foldr_cons, hrest, hm.after, setAll, setAll, setAll, List.foldl_append]

/-- The middlewares of this library; what is shared across origins is an origin that may be
sent. -/
inductive BuiltIn : Middleware → Prop
  | logging : BuiltIn logging
  | cors {origin : String} : isHeaderValue origin = true → BuiltIn (cors origin)

theorem BuiltIn.exists_sets {m : Middleware} (h : m.BuiltIn) : ∃ headers, m.Sets headers := by
  cases h with
  | logging => exact ⟨[], fun _ => rfl, nofun, fun _ _ => rfl⟩
  | @cors origin horigin =>
    have hname : "Access-Control-Allow-Origin".toLower ≠ "content-type" ∧
        "Access-Control-Allow-Origin".toLower ≠ RequestId.header ∧
        isHeaderName "Access-Control-Allow-Origin".toLower = true := by decide +kernel
    have horigin : Spare ("Access-Control-Allow-Origin", origin) :=
      ⟨hname.1, hname.2.1, headerFault?_eq_none_iff.mpr ⟨hname.2.2, horigin⟩⟩
    have hmethods : Spare ("Access-Control-Allow-Methods", "GET, OPTIONS") :=
      ⟨by decide +kernel, by decide +kernel, by decide +kernel⟩
    have hheaders : Spare ("Access-Control-Allow-Headers", "Content-Type") :=
      ⟨by decide +kernel, by decide +kernel, by decide +kernel⟩
    refine ⟨[("Access-Control-Allow-Origin", origin),
      ("Access-Control-Allow-Methods", "GET, OPTIONS"),
      ("Access-Control-Allow-Headers", "Content-Type")], fun _ => rfl, ?_, fun _ _ => rfl⟩
    exact List.forall_mem_cons.mpr ⟨horigin, List.forall_mem_cons.mpr ⟨hmethods,
      List.forall_mem_singleton.mpr hheaders⟩⟩

theorem BuiltIn.neutral {m : Middleware} (h : m.BuiltIn) : m.Neutral := by
  obtain ⟨_, hsets⟩ := h.exists_sets
  exact hsets.neutral

theorem BuiltIn.legal {m : Middleware} (h : m.BuiltIn) : m.Legal := by
  obtain ⟨_, hsets⟩ := h.exists_sets
  exact hsets.legal

theorem BuiltIn.keepsName {m : Middleware} (h : m.BuiltIn) : m.KeepsName := by
  obtain ⟨_, hsets⟩ := h.exists_sets
  exact hsets.keepsName

end Middleware

namespace Server

variable (server : Server) (surroundings : Surroundings) (request : Request)

/-! ## Names -/

/-- The name of a request: the one it brings, if that can be read, or one that is made up. -/
def nameOf : String := (request.header? RequestId.header).getD surroundings.requestId

variable {surroundings} in
/-- On the inner side a request has its name. -/
theorem header?_named (h : isReadable surroundings.requestId = true) :
    (named surroundings request).header? RequestId.header = some (nameOf surroundings request) := by
  unfold named nameOf
  cases hname : request.header? RequestId.header with
  | some name => exact hname
  | none => exact request.header?_setHeader_self (by decide +kernel) h

variable {surroundings request} in
theorem isReadable_nameOf (h : isReadable surroundings.requestId = true) :
    isReadable (nameOf surroundings request) = true := by
  unfold nameOf
  cases hname : request.header? RequestId.header with
  | some name => exact Headers.isReadable_of_get? hname
  | none => exact h

variable {surroundings} in
/-- Whatever becomes of a request is answered under its name. -/
theorem answering_named (h : isReadable surroundings.requestId = true) (response : Response) :
    answering (named surroundings request) response =
      response.setHeader RequestId.header (nameOf surroundings request) := by
  rw [answering, header?_named request h]

/-- A request that arrives is named by its headers; the address of its client does not matter. -/
theorem nameOf_request (arrival : Arrival) (method : Method) :
    nameOf surroundings (arrival.request method) =
      (arrival.headers.get? RequestId.header).getD surroundings.requestId := by
  rw [nameOf, Arrival.request, Request.header?_setHeader_of_ne _ (by decide +kernel)]
  rfl

/-! ## The inner side -/

/-- What becomes of a request: a middleware answers it, or all of them let it pass and it is
dispatched. -/
inductive Yields : Response → Prop
  | early {response : Response} :
      (Middleware.runBefore (named surroundings request) server.middlewares).value =
        .respond response → Yields response
  | dispatched :
      (Middleware.runBefore (named surroundings request) server.middlewares).value = .proceed →
        Yields (server.dispatch surroundings (named surroundings request)).value

/-- What becomes of a request gets its name and passes the hooks of all middlewares. -/
theorem process_eq_foldr : ∃ response, server.Yields surroundings request response ∧
    (server.process surroundings request).value =
      server.middlewares.foldr
        (fun m response => (m.after (named surroundings request) response).value)
        (answering (named surroundings request) response) := by
  rw [process, Logged.value_bind]
  cases hbefore : (Middleware.runBefore (named surroundings request) server.middlewares).value with
  | proceed => exact ⟨_, .dispatched hbefore, Middleware.runAfter_eq_foldr _ _ _⟩
  | respond response => exact ⟨response, .early hbefore, Middleware.runAfter_eq_foldr _ _ _⟩

/-- A dispatch is answered by a container. -/
theorem exists_ofContainer_dispatch : ∃ status container,
    (server.dispatch surroundings request).value = .ofContainer status container := by
  rw [dispatch]
  cases server.destination request with
  | error refusal => exact ⟨_, _, rfl⟩
  | ok destination =>
    cases destination with
    | health => exact ⟨_, _, rfl⟩
    | service service offset query =>
      simp only [Logged.value_bind]
      cases (service.run surroundings.elapsed offset query).value with
      | error panic => exact ⟨_, _, rfl⟩
      | ok answer => exact ⟨_, _, rfl⟩

variable {server surroundings request} in
/-- Behind legal middlewares what becomes of a request can be sent. -/
theorem Yields.fault? (hlegal : ∀ m ∈ server.middlewares, m.Legal) {response : Response}
    (h : server.Yields surroundings request response) : response.fault? = none := by
  cases h with
  | early hbefore =>
    obtain ⟨m, hm, hrespond⟩ := Middleware.exists_before_of_runBefore hbefore
    exact (hlegal m hm).before _ _ hrespond
  | dispatched _ =>
    obtain ⟨status, container, hdispatch⟩ :=
      server.exists_ofContainer_dispatch surroundings (named surroundings request)
    rw [hdispatch]
    exact Response.fault?_ofContainer status container

variable {server surroundings request} in
/-- Behind legal middlewares a response can be sent. -/
theorem fault?_process (hlegal : ∀ m ∈ server.middlewares, m.Legal)
    (hid : isReadable surroundings.requestId = true) :
    (server.process surroundings request).value.fault? = none := by
  obtain ⟨response, hyields, hprocess⟩ := server.process_eq_foldr surroundings request
  have hname : headerFault? RequestId.header.toLower (nameOf surroundings request) = none :=
    headerFault?_eq_none_iff.mpr
      ⟨by decide +kernel, isHeaderValue_of_isReadable (isReadable_nameOf hid)⟩
  rw [hprocess, answering_named request hid]
  exact Middleware.foldr_after (fun r => r.fault? = none) (fun m hm r => (hlegal m hm).after _ r)
    (Response.fault?_setHeader (hyields.fault? hlegal) (by decide +kernel) hname)

variable {server surroundings request} in
/-- Behind middlewares that leave it alone a response has the name of its request. -/
theorem header?_process (hkeeps : ∀ m ∈ server.middlewares, m.KeepsName)
    (hid : isReadable surroundings.requestId = true) :
    (server.process surroundings request).value.header? RequestId.header =
      some (nameOf surroundings request) := by
  obtain ⟨response, -, hprocess⟩ := server.process_eq_foldr surroundings request
  rw [hprocess, answering_named request hid]
  exact Middleware.foldr_after
    (fun r => r.header? RequestId.header = some (nameOf surroundings request))
    (fun m hm r hr => (hkeeps m hm _ r).trans hr)
    (response.header?_setHeader_self (by decide +kernel) _)

/-! ## The outer side -/

theorem value_send (response : Response) : (send response).value = response.wire := by
  unfold send
  cases response.fault? <;> rfl

variable {server surroundings} in
theorem value_handle_of_known {arrival : Arrival} {method : Method}
    (h : Method.ofName? arrival.method = some method) :
    (server.handle surroundings arrival).value =
      (server.process surroundings (arrival.request method)).value.wire := by
  rw [handle, h]
  exact value_send _

variable {server surroundings} in
theorem handle_of_unknown {arrival : Arrival} (h : Method.ofName? arrival.method = none) :
    server.handle surroundings arrival = send Refusal.methodUnknown.response := by
  rw [handle, h]

end Server

end RoutingGateway
