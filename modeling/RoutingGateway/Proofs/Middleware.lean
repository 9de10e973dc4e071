/-
Chains of middlewares that let everything pass.

A middleware passes on a view of responses when it answers no request itself
and, whatever else it does to a response, what the view shows stays. A chain of
such middlewares is as good as none to whoever looks at that view
(`runBefore_of_passes`, `runAfter_of_passes`).

Two views are of use. A transparent middleware keeps the code and the body of a
response. A neutral one keeps all of it but the headers besides the content
type, and that is what the logging and the sharing of this library do.
-/
import RoutingGateway.Middleware

namespace RoutingGateway

open RoutingGateway.Http

namespace Http.Response

@[simp] theorem code_setHeader (response : Response) (name value : String) :
    (response.setHeader name value).code = response.code := by
  unfold setHeader
  split <;> rfl

@[simp] theorem body_setHeader (response : Response) (name value : String) :
    (response.setHeader name value).body = response.body := by
  unfold setHeader
  split <;> rfl

/-- The response without its headers, the content type apart. -/
def core (response : Response) : Response := { response with headers := [] }

theorem core_eq_iff {response response' : Response} :
    response.core = response'.core ↔ response.status = response'.status ∧
      response.code = response'.code ∧ response.contentType = response'.contentType ∧
      response.body = response'.body := by
  simp [core]

theorem core_setHeader {name : String} (h : name.toLower ≠ "content-type") (response : Response)
    (value : String) : (response.setHeader name value).core = response.core := by
  rw [setHeader, if_neg h]
  rfl

end Http.Response

namespace Middleware

/-! ## Views of responses -/

/-- The middleware answers no request, and keeps what the view shows of a response. -/
structure Passes {α : Type} (view : Response → α) (m : Middleware) : Prop where
  proceeds : ∀ request, (m.before request).value = .proceed
  keeps : ∀ request response, view (m.after request response).value = view response

section Passes

variable {α : Type} {view : Response → α} (request : Request) {middlewares : List Middleware}

theorem runBefore_of_passes (h : ∀ m ∈ middlewares, m.Passes view) :
    (runBefore request middlewares).value = .proceed := by
  induction middlewares with
  | nil => rfl
  | cons m rest ih =>
    have hm := h m (by simp)
    rw [runBefore, Logged.value_bind, hm.proceeds]
    exact ih fun m' hm' => h m' (List.mem_cons_of_mem m hm')

theorem runAfter_of_passes (h : ∀ m ∈ middlewares, m.Passes view) (response : Response) :
    view (runAfter request middlewares response).value = view response := by
  induction middlewares with
  | nil => rfl
  | cons m rest ih =>
    have hm := h m (by simp)
    have hrest := ih fun m' hm' => h m' (List.mem_cons_of_mem m hm')
    rw [runAfter, Logged.value_bind, hm.keeps, hrest]

end Passes

/-! ## Code and body -/

/-- The middleware answers no request, and responses keep their code and body. -/
structure Transparent (m : Middleware) : Prop where
  proceeds : ∀ request, (m.before request).value = .proceed
  code : ∀ request response, (m.after request response).value.code = response.code
  body : ∀ request response, (m.after request response).value.body = response.body

theorem Transparent.passes {m : Middleware} (h : m.Transparent) :
    m.Passes fun response => (response.code, response.body) where
  proceeds := h.proceeds
  keeps request response := Prod.ext (h.code request response) (h.body request response)

theorem logging_transparent : logging.Transparent where
  proceeds _ := rfl
  code _ _ := rfl
  body _ _ := rfl

theorem cors_transparent (origin : String) : (cors origin).Transparent where
  proceeds _ := rfl
  code _ response := by simp [cors]
  body _ response := by simp [cors]

/-! ## Everything but headers -/

/-- The middleware answers no request, and does nothing to responses but set headers
besides the content type. -/
def Neutral (m : Middleware) : Prop := m.Passes Response.core

theorem logging_neutral : logging.Neutral where
  proceeds _ := rfl
  keeps _ _ := rfl

theorem cors_neutral (origin : String) : (cors origin).Neutral where
  proceeds _ := rfl
  keeps _ response := by
    simp only [cors, Logged.value_pure]
    rw [Response.core_setHeader (by decide +kernel), Response.core_setHeader (by decide +kernel),
      Response.core_setHeader (by decide +kernel)]

end Middleware

end RoutingGateway
