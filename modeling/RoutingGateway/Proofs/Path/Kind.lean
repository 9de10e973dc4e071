/-
What a path is to the built-in patterns.

To the patterns that a router begins with, a path is the probe, a profile, a profile with
coordinates, or unknown (`PathKind`). Its text alone tells of which kind it is, by the parts
that it is put together from (`PathKind.Describes`), and the router matches it by this kind and
no other (`Router.matchPath_kinds`). So no path is of two kinds, and none has two profiles: the
parts that a match yields are the only ones, unchanged in their bytes.

Profiles that are registered have no part in this, whether their registration succeeds or not.
-/
import Mathlib.Logic.ExistsUnique
import RoutingGateway.Proofs.Path.BuiltIn

namespace RoutingGateway

open RoutingGateway.Path RoutingGateway.Text

/-! ## Routers -/

namespace Router

/-- The router without any pattern or profile. -/
def bare : Router := { table := ⟨[]⟩, services := [] }

/-- Registers path patterns in their order, up to the first that is refused. -/
def addEndpoints (router : Router) : List (String × Endpoint) → Except GatewayError Router
  | [] => .ok router
  | (pattern, endpoint) :: rest =>
    match router.addEndpoint pattern endpoint with
    | (.ok (), router) => router.addEndpoints rest
    | (.error e, _) => .error e

/-- Registers profiles in their order, and goes on where one is refused. -/
def addProfiles (router : Router) (registrations : List (String × Service)) : Router :=
  registrations.foldl (fun router r => (router.addProfile r.1 r.2).2) router

theorem table_addProfile (router : Router) (profile : String) (service : Service) :
    (router.addProfile profile service).2.table = router.table := by
  unfold addProfile
  split <;> rfl

theorem table_addProfiles (router : Router) (registrations : List (String × Service)) :
    (router.addProfiles registrations).table = router.table := by
  induction registrations generalizing router with
  | nil => rfl
  | cons first rest ih => exact (ih _).trans (table_addProfile router first.1 first.2)

/-- The built-in patterns are registered one after the other, and none is refused. -/
theorem addEndpoints_builtIn :
    bare.addEndpoints
        [("/route/v1/{profile}", .route), ("/route/v1/{profile}/{coordinates}", .route),
          ("/health", .health)] =
      .ok new := by
  have hroute : Pattern.read "/route/v1/{profile}" = .ok routePattern := rfl
  have hcoordinates : Pattern.read "/route/v1/{profile}/{coordinates}" = .ok coordinatesPattern :=
    rfl
  have hhealth : Pattern.read "/health" = .ok healthPattern := rfl
  have hfirst : refusal? (Table.mk ([] : List (Entry Endpoint))).branches {}
      (routePattern.lettered 0) = none := Option.isNone_iff_eq_none.mp (by decide +kernel)
  have hsecond : refusal?
      (Table.mk [{ pattern := routePattern, value := some Endpoint.route }]).branches {}
      (coordinatesPattern.lettered 0) = none := Option.isNone_iff_eq_none.mp (by decide +kernel)
  have hthird : refusal?
      (Table.mk [{ pattern := routePattern, value := some Endpoint.route },
        { pattern := coordinatesPattern, value := some .route }]).branches {}
      (healthPattern.lettered 0) = none := Option.isNone_iff_eq_none.mp (by decide +kernel)
  simp [addEndpoints, addEndpoint, bare, hroute, hcoordinates, hhealth, Table.insert, Table.push,
    hfirst, hsecond, hthird, new]

end Router

/-! ## Kinds -/

/-- What a path can be to the built-in patterns. -/
inductive PathKind where
  | health
  | profile (profile : String)
  | coordinates (profile coordinates : String)
  | unknown

namespace PathKind

/-- The path is of this kind. A profile is not empty and has no slash in it, and no more have
coordinates. -/
def Describes : PathKind → String → Prop
  | health, path => path = "/health"
  | profile p, path => Segment p.toList ∧ path = "/route/v1/" ++ p
  | coordinates p c, path =>
    Segment p.toList ∧ Segment c.toList ∧ path = "/route/v1/" ++ p ++ "/" ++ c
  | unknown, path =>
    path ≠ "/health" ∧ (∀ p, Segment p.toList → path ≠ "/route/v1/" ++ p) ∧
      ∀ p c, Segment p.toList → Segment c.toList → path ≠ "/route/v1/" ++ p ++ "/" ++ c

/-- What comes of matching a path of this kind. -/
def outcome (path : String) : PathKind → Except GatewayError (Match Endpoint)
  | health => .ok { value := .health, parameters := [] }
  | profile p => .ok { value := .route, parameters := [("profile", p)] }
  | coordinates p c =>
    .ok { value := .route, parameters := [("profile", p), ("coordinates", c)] }
  | unknown => .error (.routeNotFound path)

/-- Kinds are told apart by what comes of matching, and so are their parts. -/
theorem outcome_inj {path : String} {kind kind' : PathKind}
    (h : kind.outcome path = kind'.outcome path) : kind = kind' := by
  cases kind <;> cases kind' <;> cases h <;> rfl

/-- A path is of some kind. -/
theorem exists_describes (path : String) : ∃ kind : PathKind, kind.Describes path := by
  by_cases hknown : ∃ kind : PathKind, kind ≠ .unknown ∧ kind.Describes path
  · obtain ⟨kind, -, hkind⟩ := hknown
    exact ⟨kind, hkind⟩
  · refine ⟨.unknown, fun h => ?_, fun p hp h => ?_, fun p c hp hc h => ?_⟩
    · exact hknown ⟨.health, nofun, h⟩
    · exact hknown ⟨.profile p, nofun, hp, h⟩
    · exact hknown ⟨.coordinates p c, nofun, hp, hc, h⟩

theorem ofList_profile (profile : List Char) :
    String.ofList (routeStart.toList ++ profile) = "/route/v1/" ++ String.ofList profile := by
  rw [String.ofList_append, String.ofList_toList]
  rfl

theorem ofList_coordinates (profile coordinates : List Char) :
    String.ofList (routeStart.toList ++ (profile ++ '/' :: coordinates)) =
      "/route/v1/" ++ String.ofList profile ++ "/" ++ String.ofList coordinates := by
  rw [← List.singleton_append, ← List.append_assoc profile, String.ofList_append,
    String.ofList_append, String.ofList_append, String.ofList_toList, ← String.append_assoc,
    ← String.append_assoc]
  rfl

variable {router : Router} (htable : router.table = Router.new.table)

include htable

theorem matchPath_of_describes {path : String} {kind : PathKind} (h : kind.Describes path) :
    router.matchPath path = kind.outcome path := by
  rw [Router.matchPath, htable]
  cases kind with
  | health =>
    cases h
    rw [match?_health]
    rfl
  | profile p =>
    obtain ⟨hp, rfl⟩ := h
    have hmatch := match?_profile hp
    rw [ofList_profile, String.ofList_toList] at hmatch
    rw [hmatch]
    rfl
  | coordinates p c =>
    obtain ⟨hp, hc, rfl⟩ := h
    have hmatch := match?_coordinates hp hc
    rw [ofList_coordinates, String.ofList_toList, String.ofList_toList] at hmatch
    rw [hmatch]
    rfl
  | unknown =>
    obtain ⟨hhealth, hprofile, hcoordinates⟩ := h
    cases hmatch : Router.new.table.match? path with
    | none => rfl
    | some m =>
      rcases match?_cases hmatch with rfl | ⟨p, hp, rfl⟩ | ⟨p, c, hp, hc, rfl⟩
      · exact absurd rfl hhealth
      · exact absurd (ofList_profile p) (hprofile _ (String.toList_ofList.symm ▸ hp))
      · exact absurd (ofList_coordinates p c)
          (hcoordinates _ _ (String.toList_ofList.symm ▸ hp) (String.toList_ofList.symm ▸ hc))

/-- The router matches a path by the kind that it is of. -/
theorem matchPath_eq_outcome_iff {path : String} {kind : PathKind} :
    router.matchPath path = kind.outcome path ↔ kind.Describes path := by
  refine ⟨fun h => ?_, matchPath_of_describes htable⟩
  obtain ⟨kind', hkind'⟩ := exists_describes path
  rw [outcome_inj (h.symm.trans (matchPath_of_describes htable hkind'))]
  exact hkind'

end PathKind

/-! ## Matching -/

/-- A router with the built-in patterns, whatever profiles are registered with it, matches a path
by the kind that the path is of. Each path is of one kind and has its parts in one way only. The
parts make up the path byte by byte, and its coordinates begin at the byte that is the difference
of the two lengths. -/
theorem Router.matchPath_kinds (registrations : List (String × Service)) (path : String) :
    Router.bare.addEndpoints
        [("/route/v1/{profile}", .route), ("/route/v1/{profile}/{coordinates}", .route),
          ("/health", .health)] =
      .ok Router.new ∧
    (∀ kind : PathKind,
      (Router.new.addProfiles registrations).matchPath path = kind.outcome path ↔
        kind.Describes path) ∧
    (∃! kind : PathKind, kind.Describes path) ∧
    ∀ profile coordinates, (PathKind.coordinates profile coordinates).Describes path →
      path.utf8ByteSize - coordinates.utf8ByteSize =
        ("/route/v1/" ++ profile ++ "/").utf8ByteSize ∧
      (utf8 path).drop (path.utf8ByteSize - coordinates.utf8ByteSize) = utf8 coordinates := by
  have htable := Router.new.table_addProfiles registrations
  refine ⟨Router.addEndpoints_builtIn, fun kind => PathKind.matchPath_eq_outcome_iff htable, ?_,
    fun profile coordinates hkind => ?_⟩
  · obtain ⟨kind, hkind⟩ := PathKind.exists_describes path
    refine ⟨kind, hkind, fun kind' hkind' => ?_⟩
    have hsame := (PathKind.matchPath_of_describes htable hkind').symm.trans
      (PathKind.matchPath_of_describes htable hkind)
    exact PathKind.outcome_inj hsame
  · obtain ⟨-, -, rfl⟩ := hkind
    have hstart : ("/route/v1/" ++ profile ++ "/" ++ coordinates).utf8ByteSize -
        coordinates.utf8ByteSize = ("/route/v1/" ++ profile ++ "/").utf8ByteSize := by
      rw [String.utf8ByteSize_append, Nat.add_sub_cancel]
    refine ⟨hstart, ?_⟩
    rw [hstart, utf8_append, List.drop_left' (length_utf8 _)]

end RoutingGateway
