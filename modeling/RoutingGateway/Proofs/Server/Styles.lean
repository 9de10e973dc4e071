/-
The three ways to write a request for a route.

What a request says is a profile, a list of coordinates and the text of the
options (`RouteRequest`). The coordinates stand under their key in the query, in
the path, or by themselves at the beginning of the query (`Style`). The route
query begins at the same byte of the target in all three, and its text is a
query in one of the two layouts, so the answers are the same but for the time
the engine took (`styles_interchangeable`). A malformed query is the exception:
its position counts the bytes of the key where the coordinates stand behind one
and can be read.
-/
import RoutingGateway.Proofs.Query.Layouts
import RoutingGateway.Proofs.Server.Dispatch
import RoutingGateway.Proofs.Server.Target
import RoutingGateway.Proofs.Service.Reply

namespace RoutingGateway

open RoutingGateway.Http RoutingGateway.Path RoutingGateway.Query RoutingGateway.Text

/-! ## Requests by what they say -/

/-- Where a request has its coordinates. -/
inductive Style where
  /-- Under their key in the query. -/
  | keyed
  /-- In the last segment of the path. -/
  | path
  /-- By themselves at the beginning of the query. -/
  | query
  deriving DecidableEq, Repr

/-- The layout of the route query. -/
def Style.layout : Style → Layout
  | keyed => .keyed
  | path => .bare
  | query => .bare

/-- What a request for a route says, in whatever style. -/
structure RouteRequest where
  profile : List Char
  /-- The text in the place of the coordinates. -/
  list : List Char
  /-- The text of the options, where there are any. -/
  options : Option (List Char)
  profile_part : PathPart profile
  list_part : PathPart list
  /-- In the query the list ends at an ampersand. -/
  ampersand : '&' ∉ list
  /-- By itself the list is not taken for one behind its key. -/
  opens : ¬ Layout.keyed.opening <+: list
  options_ne_nil : options ≠ some []

namespace RouteRequest

variable (r : RouteRequest)

/-- The target. -/
def target : Style → List Char
  | .keyed => routeStart.toList ++
      (r.profile ++ '?' :: ("coordinates=".toList ++ (r.list ++ behind .keyed r.options)))
  | .path => routeStart.toList ++ (r.profile ++ '/' :: (r.list ++ behind .bare r.options))
  | .query => routeStart.toList ++ (r.profile ++ '?' :: (r.list ++ behind .bare r.options))

/-- The route query. -/
def query (style : Style) : Parts where
  layout := style.layout
  list := r.list
  options := r.options
  opens _ := r.opens
  ends := by
    cases style with
    | keyed => exact r.ampersand
    | path => exact r.list_part.2
    | query => exact r.list_part.2

/-- The target with the route query behind the question mark. -/
def inQuery (query : List Char) : RouteTarget where
  profile := r.profile
  coordinates := none
  query := some query
  profile_part := r.profile_part
  coordinates_part := nofun

/-- The target with the coordinates in the path. -/
def inPath : RouteTarget where
  profile := r.profile
  coordinates := some r.list
  query := r.options
  profile_part := r.profile_part
  coordinates_part _ h := Option.some.inj h ▸ r.list_part

/-- The target by its parts. -/
def parts : Style → RouteTarget
  | .keyed => r.inQuery (r.query .keyed).text
  | .path => r.inPath
  | .query => r.inQuery (r.query .query).text

theorem text_inQuery (query : List Char) :
    (r.inQuery query).text = routeStart.toList ++ (r.profile ++ '?' :: query) := by
  have htext : (r.inQuery query).text =
      routeStart.toList ++ (r.profile ++ []) ++ '?' :: query := rfl
  rw [htext, List.append_nil, List.append_assoc]

theorem text_inPath :
    r.inPath.text = routeStart.toList ++ (r.profile ++ '/' :: (r.list ++ behind .bare r.options)) := by
  have htext : r.inPath.text =
      routeStart.toList ++ (r.profile ++ '/' :: r.list) ++ RouteTarget.behindPath r.options := rfl
  rw [htext, List.append_assoc, List.append_assoc, List.cons_append]
  cases r.options <;> rfl

theorem text_parts (style : Style) : (r.parts style).text = r.target style := by
  cases style with
  | keyed => exact r.text_inQuery _
  | path => exact r.text_inPath
  | query => exact r.text_inQuery _

theorem queryText_inPath : r.inPath.queryText = (r.query .path).text := by
  have htext : (r.query .path).text = r.list ++ behind .bare r.options := rfl
  rw [htext]
  rcases hoptions : r.options with _ | _ | ⟨c, options⟩
  · simp [RouteTarget.queryText, inPath, behind, hoptions]
  · exact absurd hoptions r.options_ne_nil
  · simp [RouteTarget.queryText, inPath, behind, Layout.separator, hoptions]

theorem queryText_parts (style : Style) : (r.parts style).queryText = (r.query style).text := by
  cases style with
  | keyed => rfl
  | path => exact r.queryText_inPath
  | query => rfl

/-- Where the route query stands in the target. -/
def offset : Nat := width routeStart.toList + width r.profile + 1

/-- The route query stands at the same place in every style. -/
theorem width_lead_parts (style : Style) : width (r.parts style).lead = r.offset := by
  have hslash : width (routeStart.toList ++ (r.profile ++ ['/'])) = r.offset := by
    rw [width_append, width_append, offset, Nat.add_assoc]
    rfl
  have hmark : width (routeStart.toList ++ (r.profile ++ []) ++ ['?']) = r.offset := by
    rw [width_append, width_append, List.append_nil, offset]
    rfl
  cases style with
  | keyed => exact hmark
  | path => exact hslash
  | query => exact hmark

/-- A request goes to the service of its profile in every style. -/
theorem destination_target {server : Server} (htable : server.router.table = Router.new.table)
    (style : Style) :
    server.destination (.ofTarget .get (String.ofList (r.target style))) =
      match server.router.service? (String.ofList r.profile) with
      | none => .error (.profileUnknown (String.ofList r.profile))
      | some service =>
        if server.config.maxQueryLength < width (r.query style).text then
          .error (.queryTooLong server.config.maxQueryLength)
        else .ok (.service service r.offset (String.ofList (r.query style).text)) := by
  have htext : (r.parts style).text = (String.ofList (r.target style)).toList := by
    rw [r.text_parts, String.toList_ofList]
  have hprofile : (r.parts style).profile = r.profile := by cases style <;> rfl
  have hdestination := Server.destination_of_names htable (RouteTarget.names_ofTarget htext)
  rw [hprofile, r.width_lead_parts, r.queryText_parts] at hdestination
  exact hdestination

/-! ## Readings -/

theorem read_query_shift (style : Style) :
    read (r.query style).text =
      (read (r.query .query).text).shift (width style.layout.opening) :=
  read_text_shift rfl rfl rfl

/-- A route query that is read to its end is so in every style, as the same parameters. -/
theorem read_query_of_complete {p : Parameters} (h : read (r.query .query).text = .complete p)
    (style : Style) : read (r.query style).text = .complete p := by
  rw [r.read_query_shift, h]
  rfl

theorem read_query_ne_complete (h : ∀ p, read (r.query .query).text ≠ .complete p) (style : Style)
    (p : Parameters) : read (r.query style).text ≠ .complete p := by
  rw [r.read_query_shift]
  cases hread : read (r.query .query).text with
  | complete q => exact absurd hread (h q)
  | stopped => exact nofun
  | noCoordinates => exact nofun

/-- The place in the target where the reading of the route query ends. -/
def position (style : Style) : Nat :=
  r.offset + (read (r.query style).text).stop (r.query style).text

/-- The bytes of the key are counted where the coordinates can be read. -/
theorem position_keyed (h : ∀ p, read (r.query .query).text ≠ .complete p) :
    ((∃ cs, CoordinatesText r.list cs) → r.position .keyed = r.position .query + 12) ∧
      ((∀ cs, ¬ CoordinatesText r.list cs) → r.position .keyed = r.position .query) := by
  have hkey : width Style.keyed.layout.opening = 12 := by decide
  have hgood := @parameters_read_text_eq_none_iff (r.query .query)
  unfold position
  rw [r.read_query_shift .keyed, hkey]
  cases hread : read (r.query .query).text with
  | complete p => exact absurd hread (h p)
  | stopped p offset e =>
    rw [hread] at hgood
    exact ⟨fun _ => (Nat.add_assoc ..).symm, fun hnone => nomatch hgood.mpr hnone⟩
  | noCoordinates list =>
    rw [hread] at hgood
    exact ⟨fun ⟨cs, hcs⟩ => absurd hcs (hgood.mp rfl cs), fun _ => rfl⟩

end RouteRequest

/-! ## Responses that say the same -/

/-- The responses carry the same answer under the same status, but for the time. -/
def Http.Response.SameButTime (response response' : Response) : Prop :=
  ∃ status answer answer', response.Carries status answer ∧ response'.Carries status answer' ∧
    answer.SameButTime answer'

theorem Http.Response.sameButTime_ofContainer (status : Nat) (answer : Container) :
    (Response.ofContainer status answer).SameButTime (.ofContainer status answer) :=
  ⟨status, answer, answer, carries_ofContainer status answer, carries_ofContainer status answer,
    .inl rfl⟩

namespace RouteRequest

/-- The route query goes to a service and is not read to its end there. -/
def Stops (r : RouteRequest) (server : Server) : Prop :=
  (∃ service, server.router.service? (String.ofList r.profile) = some service) ∧
    ∀ p, read (r.query .query).text ≠ .complete p

/-- All responses call the query malformed, close to these positions. The positions are the
same, but the one for the keyed style counts the bytes of the key where the
coordinates behind it can be read. -/
structure SameFault (r : RouteRequest) (response : Style → Response) (position : Style → Nat) :
    Prop where
  carries : ∀ style, (response style).Carries 400 (.error "InvalidQuery"
    ("Query string malformed close to position " ++ toString (position style)))
  bare : position .path = position .query
  keyed : (∃ cs, CoordinatesText r.list cs) → position .keyed = position .query + 12
  unreadable : (∀ cs, ¬ CoordinatesText r.list cs) → position .keyed = position .query

/-- Nothing but the time and the position of a fault tells the responses apart. -/
structure Interchangeable (r : RouteRequest) (server : Server) (response : Style → Response) :
    Prop where
  faults : r.Stops server → ∃ position, r.SameFault response position
  answers : ¬ r.Stops server → ∀ style style', (response style).SameButTime (response style')

/-- The headers do not matter. -/
theorem Interchangeable.of_core {r : RouteRequest} {server : Server}
    {response response' : Style → Response} (h : r.Interchangeable server response)
    (hcore : ∀ style, (response' style).core = (response style).core) :
    r.Interchangeable server response' where
  faults hstops := by
    obtain ⟨position, hfault⟩ := h.faults hstops
    exact ⟨position, { hfault with
      carries := fun style => (hfault.carries style).of_core (hcore style) }⟩
  answers hstops style style' := by
    obtain ⟨status, answer, answer', hcarries, hcarries', hsame⟩ := h.answers hstops style style'
    exact ⟨status, answer, answer', hcarries.of_core (hcore style), hcarries'.of_core (hcore style'),
      hsame⟩

end RouteRequest

namespace Server

variable {server : Server}

theorem statusOf_of_sameButTime {answer answer' : Container} (h : answer.SameButTime answer')
    (status : Status) : statusOf status answer = statusOf status answer' := by
  have hname : Service.durationField ≠ "code" := by decide
  have hcode : answer.code? = answer'.code? := by
    rcases h with rfl | ⟨doc, elapsed, elapsed', rfl, rfl⟩
    · rfl
    · have hinsert (value : Json) : ((Container.document doc).insert Service.durationField
          value).code? = (Container.document doc).code? := Container.code?_insert hname value
      exact (hinsert (.int elapsed)).trans (hinsert (.int elapsed')).symm
  cases status with
  | ok => rfl
  | error => simp only [statusOf, hcode]

/-- Runs with the same outcome are answered by the same response but for the time. -/
theorem dispatch_sameButTime {request request' : Request} {service service' : Service}
    {offset offset' : Nat} {query query' : String} (surroundings surroundings' : Surroundings)
    (hdestination : server.destination request = .ok (.service service offset query))
    (hdestination' : server.destination request' = .ok (.service service' offset' query'))
    (h : Service.SameOutcome (service.run surroundings.elapsed offset query).value
      (service'.run surroundings'.elapsed offset' query').value) :
    (server.dispatch surroundings request).value.SameButTime
      (server.dispatch surroundings' request').value := by
  rw [dispatch_of_service surroundings hdestination, dispatch_of_service surroundings' hdestination']
  generalize (service.run surroundings.elapsed offset query).value = outcome at h ⊢
  generalize (service'.run surroundings'.elapsed offset' query').value = outcome' at h ⊢
  cases h with
  | panicked panic => exact Response.sameButTime_ofContainer _ _
  | @answered status a b hsame =>
    have hcarries : (Response.ofContainer (statusOf status b) b).Carries (statusOf status a) b := by
      rw [statusOf_of_sameButTime hsame]
      exact Response.carries_ofContainer _ b
    exact ⟨statusOf status a, a, b, Response.carries_ofContainer _ a, hcarries, hsame⟩

/-- A run that is stopped by its query is answered as a malformed query. -/
theorem carries_dispatch_of_not_complete (surroundings : Surroundings) {request : Request}
    {service : Service} {offset : Nat} {query : List Char}
    (hdestination : server.destination request =
      .ok (.service service offset (String.ofList query)))
    (hparser : service.parser = Query.parser) (h : ∀ p, read query ≠ .complete p) :
    (server.dispatch surroundings request).value.Carries 400 (.error "InvalidQuery"
      ("Query string malformed close to position " ++
        toString (offset + (read query).stop query))) := by
  have hread : ∀ p, read (String.ofList query).toList ≠ .complete p := by
    rw [String.toList_ofList]
    exact h
  rw [dispatch_of_service surroundings hdestination, Service.run_of_not_complete hparser _ _ hread,
    String.toList_ofList]
  exact Response.carries_ofContainer 400 _

/-! ## The three styles -/

section Styles

variable (r : RouteRequest) (surroundings : Style → Surroundings)

/-- Without a service for the profile there is one answer, whatever the style. -/
theorem interchangeable_of_unregistered (htable : server.router.table = Router.new.table)
    (hservice : server.router.service? (String.ofList r.profile) = none) :
    r.Interchangeable server fun style => (server.dispatch (surroundings style)
      (.ofTarget .get (String.ofList (r.target style)))).value := by
  have hrefused : ∀ style, (server.dispatch (surroundings style)
      (.ofTarget .get (String.ofList (r.target style)))).value =
        (Refusal.profileUnknown (String.ofList r.profile)).response := fun style => by
    have hdestination := r.destination_target htable style
    simp only [hservice] at hdestination
    rw [dispatch_of_error _ hdestination]
    rfl
  refine ⟨fun hstops => ?_, fun _ style style' => ?_⟩
  · obtain ⟨⟨service, hsome⟩, -⟩ := hstops
    cases hservice.symm.trans hsome
  · rw [hrefused style, hrefused style']
    exact Response.sameButTime_ofContainer _ _

/-- A service that reads route queries by the grammar reads this one alike in every
style. -/
theorem interchangeable_of_registered {service : Service}
    (hservice : server.router.service? (String.ofList r.profile) = some service)
    (hparser : service.parser = Query.parser)
    (hdestination : ∀ style, server.destination (.ofTarget .get (String.ofList (r.target style))) =
      .ok (.service service r.offset (String.ofList (r.query style).text))) :
    r.Interchangeable server fun style => (server.dispatch (surroundings style)
      (.ofTarget .get (String.ofList (r.target style)))).value := by
  refine ⟨fun ⟨_, hstops⟩ => ?_, fun hreads style style' => ?_⟩
  · obtain ⟨hgood, hbad⟩ := r.position_keyed hstops
    exact ⟨r.position,
      { carries := fun style => carries_dispatch_of_not_complete (surroundings style)
          (hdestination style) hparser (r.read_query_ne_complete hstops style)
        bare := rfl
        keyed := hgood
        unreadable := hbad }⟩
  · have hread : ∃ p, read (r.query .query).text = .complete p := by
      by_contra hnone
      exact hreads ⟨⟨service, hservice⟩, not_exists.mp hnone⟩
    obtain ⟨p, hp⟩ := hread
    have hrun : ∀ style, (service.run (surroundings style).elapsed r.offset
        (String.ofList (r.query style).text)).value =
          service.reply (surroundings style).elapsed p := fun style => by
      refine service.run_of_whole _ _ ?_
      rw [hparser, parse_eq_whole_iff_read, String.toList_ofList]
      exact r.read_query_of_complete hp style
    refine dispatch_sameButTime _ _ (hdestination style) (hdestination style') ?_
    rw [hrun style, hrun style']
    exact service.reply_sameOutcome _ _ p

variable (htable : server.router.table = Router.new.table)
  (hparser : ∀ service, server.router.service? (String.ofList r.profile) = some service →
    service.parser = Query.parser)
  (hfits : ∀ style, width (r.query style).text ≤ server.config.maxQueryLength)

include htable hparser hfits

theorem interchangeable_dispatch :
    r.Interchangeable server fun style => (server.dispatch (surroundings style)
      (.ofTarget .get (String.ofList (r.target style)))).value := by
  cases hservice : server.router.service? (String.ofList r.profile) with
  | none => exact interchangeable_of_unregistered r surroundings htable hservice
  | some service =>
    refine interchangeable_of_registered r surroundings hservice (hparser service hservice)
      fun style => ?_
    rw [r.destination_target htable style, hservice]
    exact if_neg (Nat.not_lt_of_le (hfits style))

/-- The three styles are interchangeable, at the dispatch and behind middlewares that set
nothing but headers. -/
theorem styles_interchangeable :
    (r.Interchangeable server fun style => (server.dispatch (surroundings style)
      (.ofTarget .get (String.ofList (r.target style)))).value) ∧
    ((∀ m ∈ server.middlewares, m.Neutral) →
      r.Interchangeable server fun style =>
        (server.answer (surroundings style) .get (String.ofList (r.target style))).value) := by
  have hdispatch := interchangeable_dispatch r surroundings htable hparser hfits
  refine ⟨hdispatch, fun hmiddlewares => hdispatch.of_core fun style => ?_⟩
  have hname : ∀ (response : Response) value,
      (response.setHeader RequestId.header value).core = response.core :=
    Response.core_setHeader (by decide +kernel)
  exact answer_of_passes (surroundings style) hname hmiddlewares .get _

end Styles

/-- An unknown key behind good coordinates: the position is 12 bytes further on where the
coordinates are behind their key. -/
theorem styles_interchangeable_unknownKey :
    let service : Service := { engine := { route := fun _ _ => pure (.error ⟨"no map"⟩) } }
    let server : Server :=
      { config := {}
        router := { Router.new with services := [("car", service)] }
        middlewares := [Middleware.logging, Middleware.cors] }
    let answer := fun target =>
      (server.answer { requestId := "a", elapsed := 0, task := "0" } .get target).value
    let fault := fun (position : Nat) => Container.error "InvalidQuery"
      ("Query string malformed close to position " ++ toString position)
    ∃ position, (answer "/route/v1/car/1,1;2,2?x=1").Carries 400 (fault position) ∧
      (answer "/route/v1/car?1,1;2,2?x=1").Carries 400 (fault position) ∧
      (answer "/route/v1/car?coordinates=1,1;2,2&x=1").Carries 400 (fault (position + 12)) := by
  intro service server answer fault
  let r : RouteRequest :=
    { profile := "car".toList
      list := "1,1;2,2".toList
      options := some "x=1".toList
      profile_part := ⟨⟨by decide, by decide⟩, by decide⟩
      list_part := ⟨⟨by decide, by decide⟩, by decide⟩
      ampersand := by decide
      opens := by decide
      options_ne_nil := by decide }
  have hparser : ∀ service', server.router.service? (String.ofList r.profile) = some service' →
      service'.parser = Query.parser := fun service' h => by
    cases h
    rfl
  have hmiddlewares : ∀ m ∈ server.middlewares, m.Neutral := by
    intro m hm
    rcases List.mem_cons.mp hm with hm | hm
    · exact hm ▸ Middleware.logging_neutral
    · exact List.mem_singleton.mp hm ▸ Middleware.cors_neutral "*"
  have hfits : ∀ style, width (r.query style).text ≤ server.config.maxQueryLength := by
    intro style
    cases style <;> decide
  have hstops : r.Stops server := by
    have hstop : (read (r.query .query).text).stop [] = 7 := rfl
    refine ⟨⟨service, rfl⟩, fun p hread => ?_⟩
    rw [hread] at hstop
    cases hstop
  have hgood : ∃ cs, CoordinatesText r.list cs := by
    obtain ⟨cs, hcs⟩ := Option.isSome_iff_exists.mp
      (show (coordinates? "1,1;2,2".toList).isSome = true by decide)
    exact ⟨cs, coordinates?_eq_some_iff.mp hcs⟩
  obtain ⟨position, hfault⟩ := ((styles_interchangeable r
    (fun _ => { requestId := "a", elapsed := 0, task := "0" }) rfl hparser hfits).2
      hmiddlewares).faults hstops
  have hkeyed := hfault.carries .keyed
  rw [hfault.keyed hgood] at hkeyed
  have hpath := hfault.carries .path
  rw [hfault.bare] at hpath
  exact ⟨position .query, hpath, hfault.carries .query, hkeyed⟩

end Server

end RoutingGateway
