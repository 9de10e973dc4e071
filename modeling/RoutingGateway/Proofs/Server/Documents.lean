/-
Documents on their way to the client.

The body of a response that carries a document can be read, and it reads as that document, with
its fields in their order at every level (`Document.read?_encode`). So the code of a response is
the string under that name in its body. Text of the client that gets into a message, such as a
path or the name of a profile, stands in the document as it is: what is not found is answered
with a document of two fields, whatever the text holds (`dispatch_tells`).
-/
import RoutingGateway.Proofs.Json.Reader
import RoutingGateway.Proofs.Server.Decision
import RoutingGateway.Proofs.Text.Utf8

namespace RoutingGateway

open RoutingGateway.Http

/-! ## Bodies -/

/-- The document that a body holds, if it holds one. -/
def Document.read? (body : List UInt8) : Option Document :=
  match (Text.ofUtf8? body).bind Json.read? with
  | some (.object fields) => some ⟨fields⟩
  | _ => none

theorem Document.read?_encode {doc : Document} (h : doc.toJson.Exact) :
    Document.read? (Container.document doc).encode.body = some doc := by
  have hbody : (Container.document doc).encode.body = Text.utf8 doc.toJson.render := rfl
  rw [Document.read?, hbody, Text.ofUtf8?_utf8, Option.bind_some, Json.read?_render h]
  rfl

/-- Whatever they say, error documents can be read. -/
theorem Document.exact_error (code message : String) :
    (Document.error code message).toJson.Exact :=
  .object (List.forall_mem_cons.mpr ⟨.string code,
    List.forall_mem_singleton.mpr (.string message)⟩)

/-- The response has this document for its body, under this status. -/
structure Http.Response.Tells (response : Response) (status : Nat) (doc : Document) : Prop where
  status : response.status = status
  contentType : response.contentType = Container.documentType
  body : Document.read? response.body = some doc
  /-- The code is the string under that name in the body. -/
  code : response.code = (Document.read? response.body).bind fun doc =>
    (doc.get? "code").bind Json.asString?

theorem Http.Response.tells_ofContainer (status : Nat) {doc : Document} (h : doc.toJson.Exact) :
    (Response.ofContainer status (.document doc)).Tells status doc where
  status := rfl
  contentType := rfl
  body := Document.read?_encode h
  code := by
    have hbody : Document.read? (Response.ofContainer status (.document doc)).body = some doc :=
      Document.read?_encode h
    rw [hbody]
    rfl

namespace Server

/-! ## What is not found -/

/-- What the request asks for is not there, with the code and the message that say so. -/
inductive NotFound (server : Server) (request : Request) : String → String → Prop
  | path : server.router.table.match? request.path = none →
      NotFound server request "InvalidUrl" ("URL " ++ request.path ++ " not found")
  | profileMissing {found : Path.Match Endpoint} : server.Admits request found →
      found.value = .route → found.profile? = none →
      NotFound server request "InvalidUrl" "Missing profile"
  | profile {found : Path.Match Endpoint} {profile : String} : server.Admits request found →
      found.value = .route → found.profile? = some profile →
      server.router.service? profile = none →
      NotFound server request "InvalidService" ("Profile " ++ profile ++ " not found!")

theorem NotFound.settles {server : Server} {request : Request} {code message : String}
    (h : server.NotFound request code message) :
    server.Settles request 404 (.error code message) := by
  cases h with
  | path hpath => exact .pathUnknown hpath
  | profileMissing hadmits hroute hprofile => exact .profileMissing hadmits hroute hprofile
  | profile hadmits hroute hprofile hservice =>
    exact .profileUnknown hadmits hroute hprofile hservice

theorem Concludes.status_cases {outcome : Except Panic (Status × Container)} {status : Nat}
    {answer : Container} (h : Concludes outcome status answer) :
    status = 200 ∨ status = 400 ∨ status = 500 := by
  cases h <;> simp

/-- Nothing else is answered with this status. -/
theorem status_dispatch_eq_notFound_iff (server : Server) (surroundings : Surroundings)
    (request : Request) :
    (server.dispatch surroundings request).value.status = 404 ↔
      ∃ code message, server.NotFound request code message := by
  constructor
  · intro hstatus
    rcases server.settles_or_submits request with ⟨status, answer, hsettles⟩ | ⟨found, service, h⟩
    · rw [dispatch_of_settles surroundings hsettles] at hstatus
      obtain rfl : status = 404 := hstatus
      cases hsettles with
      | pathUnknown hpath => exact ⟨_, _, .path hpath⟩
      | profileMissing hadmits hroute hprofile =>
        exact ⟨_, _, .profileMissing hadmits hroute hprofile⟩
      | profileUnknown hadmits hroute hprofile hservice =>
        exact ⟨_, _, .profile hadmits hroute hprofile hservice⟩
    · obtain ⟨status, answer, hconcludes, hresponse⟩ :=
        exists_concludes surroundings (destination_of_submits h)
      rw [hresponse] at hstatus
      obtain rfl : status = 404 := hstatus
      rcases hconcludes.status_cases with hother | hother | hother <;> cases hother
  · rintro ⟨code, message, h⟩
    rw [dispatch_of_settles surroundings h.settles]
    rfl

/-- Every document is told as it is. So is every refusal, and what is not found is told in a
document of two fields with the text of the client in it. -/
theorem dispatch_tells :
    (∀ status (doc : Document), doc.toJson.Exact →
      (Response.ofContainer status (.document doc)).Tells status doc) ∧
    (∀ refusal : Refusal, refusal.response.Tells refusal.status
      ⟨[("code", .string refusal.code), ("message", .string refusal.message)]⟩) ∧
    ∀ (server : Server) (surroundings : Surroundings) (request : Request),
      ((server.dispatch surroundings request).value.status = 404 ↔
        ∃ code message, server.NotFound request code message) ∧
      ∀ code message, server.NotFound request code message →
        (server.dispatch surroundings request).value.Tells 404
          ⟨[("code", .string code), ("message", .string message)]⟩ := by
  refine ⟨fun status doc => Response.tells_ofContainer status,
    fun refusal => Response.tells_ofContainer refusal.status (Document.exact_error _ _),
    fun server surroundings request =>
      ⟨server.status_dispatch_eq_notFound_iff surroundings request, fun code message h => ?_⟩⟩
  rw [dispatch_of_settles surroundings h.settles]
  exact Response.tells_ofContainer 404 (Document.exact_error code message)

/-- A path with a quote, a backslash and a line break, and a document with the like in a name. -/
theorem dispatch_tells_quote :
    let doc : Document := ⟨[("a\n\"", .array [.int (-1), .null]), ("code", .string "\x01é")]⟩
    let server : Server := { config := {}, router := Router.new, middlewares := [] }
    let surroundings : Surroundings := { requestId := "a", elapsed := 5, task := "0" }
    let request : Request := .ofTarget .get "/\"\\\n"
    (Response.ofContainer 200 (.document doc)).Tells 200 doc ∧
      (server.dispatch surroundings request).value.Tells 404
        ⟨[("code", .string "InvalidUrl"), ("message", .string "URL /\"\\\n not found")]⟩ := by
  intro doc server surroundings request
  obtain ⟨hdocument, -, hdispatch⟩ := dispatch_tells
  have hitems : Json.Exact (.array [.int (-1), .null]) :=
    .array (List.forall_mem_cons.mpr
      ⟨.int ⟨by decide, by decide⟩, List.forall_mem_singleton.mpr .null⟩)
  have hexact : doc.toJson.Exact :=
    .object (List.forall_mem_cons.mpr ⟨hitems, List.forall_mem_singleton.mpr (.string _)⟩)
  have hpath : server.router.table.match? request.path = none :=
    Option.isNone_iff_eq_none.mp (by decide +kernel)
  exact ⟨hdocument 200 doc hexact, (hdispatch server surroundings request).2 _ _ (.path hpath)⟩

end Server

end RoutingGateway
