/-
Targets that ask for a route, on a server with the built-in patterns.

A `RouteTarget` is such a target by its parts: the profile, the coordinates
where the path holds them, and the query where there is a question mark. Its
text is cut once more, into what leads up to the text of the route query, that
text, and what trails it (`text_eq`). A trail is there in one case only, when
a question mark behind coordinates in the path has nothing behind it.

`destination_of_names` says where a request with these parts goes, and
`exists_names` that no other request goes to a service.
-/
import RoutingGateway.Proofs.Path.BuiltIn
import RoutingGateway.Server

namespace RoutingGateway

open RoutingGateway.Http RoutingGateway.Path RoutingGateway.Text

/-! ## Targets by their parts -/

/-- A part of a path that a parameter can stand for. -/
def PathPart (text : List Char) : Prop := Segment text ∧ '?' ∉ text

/-- A target that asks for a route. -/
structure RouteTarget where
  profile : List Char
  /-- The last segment of the path, where it holds the coordinates. -/
  coordinates : Option (List Char)
  /-- What stands behind the first question mark. -/
  query : Option (List Char)
  profile_part : PathPart profile
  coordinates_part : ∀ c, coordinates = some c → PathPart c

namespace RouteTarget

/-- What stands behind the profile in the path. -/
def inPath : Option (List Char) → List Char
  | none => []
  | some coordinates => '/' :: coordinates

/-- What stands behind the path. -/
def behindPath : Option (List Char) → List Char
  | none => []
  | some query => '?' :: query

def path (r : RouteTarget) : List Char :=
  routeStart.toList ++ (r.profile ++ inPath r.coordinates)

def text (r : RouteTarget) : List Char := r.path ++ behindPath r.query

/-- The text of the route query: a query, or coordinates in the path with a query that
is not empty. -/
def queryText (r : RouteTarget) : List Char :=
  match r.coordinates, r.query with
  | none, none => []
  | none, some query => query
  | some coordinates, none => coordinates
  | some coordinates, some [] => coordinates
  | some coordinates, some query => coordinates ++ '?' :: query

/-- What stands in front of the text of the route query. -/
def lead (r : RouteTarget) : List Char :=
  match r.coordinates, r.query with
  | none, none => r.path
  | none, some _ => r.path ++ ['?']
  | some _, _ => routeStart.toList ++ (r.profile ++ ['/'])

/-- What stands behind the text of the route query. -/
def trail (r : RouteTarget) : List Char :=
  match r.coordinates, r.query with
  | some _, some [] => ['?']
  | _, _ => []

theorem text_eq (r : RouteTarget) : r.text = r.lead ++ (r.queryText ++ r.trail) := by
  obtain ⟨profile, coordinates, query, hprofile, hcoordinates⟩ := r
  rcases coordinates with _ | coordinates <;> rcases query with _ | _ | ⟨c, query⟩ <;>
    simp [text, path, lead, queryText, trail, inPath, behindPath]

theorem questionMark_not_mem_path (r : RouteTarget) : '?' ∉ r.path := by
  have hcoordinates : '?' ∉ inPath r.coordinates := by
    cases h : r.coordinates with
    | none => simp [inPath]
    | some coordinates => simpa [inPath] using (r.coordinates_part _ h).2
  have hstart : '?' ∉ routeStart.toList := by decide
  simpa [path] using ⟨hstart, r.profile_part.2, hcoordinates⟩

/-! ## Requests -/

/-- The request asks with the usual method for the parts of the target. -/
structure Names (r : RouteTarget) (request : Request) : Prop where
  method : request.method = .get
  path : request.path = String.ofList r.path
  query : request.query = r.query.map String.ofList

theorem names_ofTarget {r : RouteTarget} {target : String} (h : r.text = target.toList) :
    r.Names (Request.ofTarget .get target) := by
  cases hquery : r.query with
  | none =>
    rw [text, hquery, behindPath, List.append_nil] at h
    have hcut : cut '?' target.toList = none :=
      cut_eq_none_iff.mpr (h ▸ r.questionMark_not_mem_path)
    refine ⟨?_, ?_, ?_⟩
    · simp only [Request.ofTarget, hcut]
    · simp only [Request.ofTarget, hcut]
      rw [h, String.ofList_toList]
    · simp only [Request.ofTarget, hcut, hquery, Option.map_none]
  | some query =>
    rw [text, hquery, behindPath] at h
    have hcut : cut '?' target.toList = some (r.path, query) :=
      cut_eq_some_iff.mpr ⟨h.symm, r.questionMark_not_mem_path⟩
    refine ⟨?_, ?_, ?_⟩
    · simp only [Request.ofTarget, hcut]
    · simp only [Request.ofTarget, hcut]
    · simp only [Request.ofTarget, hcut, hquery, Option.map_some]

/-- A target is the text of the parts that its request names. -/
theorem text_of_names {r : RouteTarget} {target : String}
    (h : r.Names (Request.ofTarget .get target)) : r.text = target.toList := by
  obtain ⟨-, hpath, hquery⟩ := h
  cases hcut : cut '?' target.toList with
  | none =>
    simp only [Request.ofTarget, hcut] at hpath hquery
    have hnone : r.query = none := Option.map_eq_none_iff.mp hquery.symm
    rw [text, hnone, behindPath, List.append_nil, hpath, String.toList_ofList]
  | some parts =>
    obtain ⟨path, query⟩ := parts
    simp only [Request.ofTarget, hcut] at hpath hquery
    obtain ⟨query', hsome, hquery'⟩ := Option.map_eq_some_iff.mp hquery.symm
    rw [text, hsome, behindPath, ← String.ofList_inj.mp hpath, String.ofList_inj.mp hquery']
    exact (cut_eq_some_iff.mp hcut).1.symm

theorem questionMark_not_mem_path_ofTarget (method : Method) (target : String) :
    '?' ∉ (Request.ofTarget method target).path.toList := by
  cases hcut : cut '?' target.toList with
  | none =>
    simp only [Request.ofTarget, hcut]
    exact cut_eq_none_iff.mp hcut
  | some parts =>
    obtain ⟨path, query⟩ := parts
    simp only [Request.ofTarget, hcut, String.toList_ofList]
    exact (cut_eq_some_iff.mp hcut).2

theorem Names.setHeader {r : RouteTarget} {request : Request} (h : r.Names request)
    (name value : String) : r.Names (request.setHeader name value) := by
  unfold Request.setHeader
  split
  · exact ⟨h.method, h.path, h.query⟩
  · exact h

/-- What matching the path of a target yields. -/
def found (r : RouteTarget) : Match Endpoint where
  value := .route
  parameters := ("profile", String.ofList r.profile) ::
    (r.coordinates.map fun c => ("coordinates", String.ofList c)).toList

theorem match?_path (r : RouteTarget) :
    Router.new.table.match? (String.ofList r.path) = some r.found := by
  cases h : r.coordinates with
  | none =>
    rw [path, h, inPath, List.append_nil, match?_profile r.profile_part.1, found, h]
    rfl
  | some coordinates =>
    rw [path, h, inPath, match?_coordinates r.profile_part.1 (r.coordinates_part _ h).1, found, h]
    rfl

theorem profile?_found (r : RouteTarget) :
    r.found.profile? = some (String.ofList r.profile) := by
  cases h : r.coordinates <;> simp [found, h, Match.profile?, Match.parameter?]

theorem coordinates?_found (r : RouteTarget) :
    r.found.coordinates? = r.coordinates.map String.ofList := by
  cases h : r.coordinates <;> simp [found, h, Match.coordinates?, Match.parameter?]

theorem width_lead_of_coordinates {r : RouteTarget} {coordinates : List Char}
    (h : r.coordinates = some coordinates) :
    width r.lead = width r.path - width coordinates := by
  have hlead : r.lead = routeStart.toList ++ (r.profile ++ ['/']) := by simp [lead, h]
  rw [hlead, path, h, inPath]
  simp only [width_append, width_cons, width_nil]
  omega

/-- The route query of a request for a target, and where it stands. -/
theorem routeQuery_of_names {r : RouteTarget} {request : Request} (h : r.Names request) :
    Server.routeQuery request r.found = (width r.lead, String.ofList r.queryText) := by
  have hpath : request.path.utf8ByteSize = width r.path := by
    rw [h.path, utf8ByteSize_ofList]
  have hmark : '?'.utf8Size = 1 := by decide
  rw [Server.routeQuery, coordinates?_found]
  cases hcoordinates : r.coordinates with
  | none =>
    cases hquery : r.query with
    | none =>
      simp [Request.queryOffset, Request.queryText, h.query, hquery, hpath, lead, queryText,
        hcoordinates]
    | some query =>
      simp [Request.queryOffset, Request.queryText, h.query, hquery, hpath, lead, queryText,
        hcoordinates, hmark]
  | some coordinates =>
    have hlead := width_lead_of_coordinates hcoordinates
    simp only [Option.map_some, Request.pathQuery, hpath, utf8ByteSize_ofList, ← hlead, h.query]
    rcases hquery : r.query with _ | _ | ⟨c, query⟩
    · simp [queryText, hquery, hcoordinates]
    · simp [queryText, hquery, hcoordinates]
    · simp [queryText, hquery, hcoordinates, String.append_assoc]

end RouteTarget

/-! ## Destinations -/

namespace Server

variable {server : Server} (htable : server.router.table = Router.new.table)

include htable

/-- A request for a target goes to the service of its profile, with the text of the
route query and the place where it stands. -/
theorem destination_of_names {r : RouteTarget} {request : Request} (h : r.Names request) :
    server.destination request =
      match server.router.service? (String.ofList r.profile) with
      | none => .error (.profileUnknown (String.ofList r.profile))
      | some service =>
        if server.config.maxQueryLength < width r.queryText then
          .error (.queryTooLong server.config.maxQueryLength)
        else .ok (.service service (width r.lead) (String.ofList r.queryText)) := by
  have hmatch : server.router.matchPath request.path = .ok r.found := by
    rw [Router.matchPath, htable, h.path, r.match?_path]
  have hvalue : r.found.value = .route := rfl
  rw [destination, hmatch]
  simp only [h.method, hvalue, r.profile?_found, RouteTarget.routeQuery_of_names h,
    utf8ByteSize_ofList]
  rw [if_neg fun hne => hne rfl]
  cases server.router.service? (String.ofList r.profile) with
  | none => rfl
  | some service =>
    by_cases hlong : server.config.maxQueryLength < width r.queryText
    · simp only [if_pos hlong]
      rfl
    · simp only [if_neg hlong]
      rfl

/-- What a service is handed by a request for a target. -/
theorem service_of_names {r : RouteTarget} {request : Request} (h : r.Names request)
    {service : Service} {offset : Nat} {query : String}
    (hdestination : server.destination request = .ok (.service service offset query)) :
    server.router.service? (String.ofList r.profile) = some service ∧ offset = width r.lead ∧
      query = String.ofList r.queryText := by
  rw [destination_of_names htable h] at hdestination
  cases hservice : server.router.service? (String.ofList r.profile) with
  | none =>
    rw [hservice] at hdestination
    cases hdestination
  | some service' =>
    rw [hservice] at hdestination
    by_cases hlong : server.config.maxQueryLength < width r.queryText
    · simp only [if_pos hlong] at hdestination
      cases hdestination
    · simp only [if_neg hlong] at hdestination
      cases hdestination
      exact ⟨rfl, rfl, rfl⟩

omit htable in
/-- A request that goes to a service has the usual method and a path for routes. -/
theorem route_of_destination {request : Request} {service : Service} {offset : Nat}
    {query : String} (h : server.destination request = .ok (.service service offset query)) :
    request.method = .get ∧ ∃ found, server.router.matchPath request.path = .ok found ∧
      found.value = .route := by
  unfold destination at h
  cases hmatch : server.router.matchPath request.path with
  | error e =>
    rw [hmatch] at h
    cases h
  | ok found =>
    rw [hmatch] at h
    simp only at h
    by_cases hmethod : request.method = .get
    · rw [if_neg fun hne => hne hmethod] at h
      cases hvalue : found.value with
      | health =>
        rw [hvalue] at h
        cases h
      | route => exact ⟨hmethod, found, rfl, hvalue⟩
    · rw [if_pos hmethod] at h
      cases h

/-- Only requests that name a target go to a service. -/
theorem exists_names {request : Request} (hmark : '?' ∉ request.path.toList) {service : Service}
    {offset : Nat} {query : String}
    (h : server.destination request = .ok (.service service offset query)) :
    ∃ r : RouteTarget, r.Names request := by
  obtain ⟨hmethod, found, hmatch, hvalue⟩ := route_of_destination h
  have hquery : request.query = (request.query.map String.toList).map String.ofList := by
    cases request.query <;> simp
  rw [Router.matchPath, htable] at hmatch
  cases hfound : Router.new.table.match? request.path with
  | none =>
    rw [hfound] at hmatch
    cases hmatch
  | some m =>
    rw [hfound] at hmatch
    cases hmatch
    rcases match?_cases hfound with hpath | ⟨profile, hprofile, hpath⟩ |
      ⟨profile, coordinates, hprofile, hcoordinates, hpath⟩
    · rw [hpath, match?_health] at hfound
      cases hfound
      cases hvalue
    · rw [hpath, String.toList_ofList] at hmark
      simp only [List.mem_append, not_or] at hmark
      let r : RouteTarget :=
        { profile, coordinates := none, query := request.query.map String.toList
          profile_part := ⟨hprofile, hmark.2⟩, coordinates_part := nofun }
      exact ⟨r, hmethod, by simpa [r, RouteTarget.path, RouteTarget.inPath] using hpath, hquery⟩
    · rw [hpath, String.toList_ofList] at hmark
      simp only [List.mem_append, List.mem_cons, not_or] at hmark
      let r : RouteTarget :=
        { profile, coordinates := some coordinates, query := request.query.map String.toList
          profile_part := ⟨hprofile, hmark.2.1⟩
          coordinates_part := fun c hc => Option.some.inj hc ▸ ⟨hcoordinates, hmark.2.2.2⟩ }
      exact ⟨r, hmethod, hpath, hquery⟩

end Server

end RoutingGateway
