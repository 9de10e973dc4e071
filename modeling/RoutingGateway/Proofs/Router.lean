/-
Registrations over whole runs.

Profiles and path patterns are registered with a router in any order, and some are refused
(`Registration`). What the router then knows of profiles can be told from the list of what was
asked for (`registeredBy_after`): the first service under a name stays, the names are listed in
the order of their bytes, and a name that was asked for before is refused.

Profiles and patterns do not get into each other's way, and a profile that is refused changes
nothing. Of a pattern that is refused this holds where it cannot be read and where it conflicts
with another one. A pattern with a second parameter in a segment, or with a catch-all that is not
its end, leaves a part of itself in the table of paths, and that can take a path away from
another pattern (`matchPath_addEndpoint_refused`).
-/
import Mathlib.Data.List.Induction
import Mathlib.Data.List.Nodup
import RoutingGateway.Proofs.Path.Kind
import RoutingGateway.Proofs.Path.Remnant
import RoutingGateway.Proofs.Text.Utf8

namespace RoutingGateway.Router

open RoutingGateway.Path

/-! ## Profiles of a router -/

variable (router : Router)

/-- The first service under a name stays. -/
theorem service?_addProfile (profile : String) (service : Service) (name : String) :
    (router.addProfile profile service).2.service? name =
      (router.service? name).or (if profile = name then some service else none) := by
  unfold addProfile
  cases hservice : router.service? profile with
  | some old =>
    by_cases hname : profile = name
    · rw [← hname, hservice, Option.some_or]
    · rw [if_neg hname, Option.or_none]
  | none =>
    rw [service?, service?, List.find?_append]
    by_cases hname : profile = name <;>
      cases router.services.find? fun s => s.1 = name <;> simp [hname]

theorem isSome_find?_iff (services : List (String × Service)) (name : String) :
    ((services.find? fun s => s.1 = name).map Prod.snd).isSome = true ↔
      name ∈ services.map Prod.fst := by
  rw [Option.isSome_map, List.find?_isSome]
  simp

theorem mem_profiles_iff (name : String) :
    name ∈ router.profiles ↔ (router.service? name).isSome = true := by
  rw [profiles, (List.mergeSort_perm _ _).mem_iff, service?, isSome_find?_iff]

/-- The names of the profiles are listed in the order of their bytes. -/
theorem pairwise_profiles (h : (router.services.map Prod.fst).Nodup) :
    (router.profiles.map Text.utf8).Pairwise (· < ·) := by
  have hsorted : router.profiles.Pairwise fun a b => decide (a ≤ b) = true := by
    apply List.pairwise_mergeSort
    · simpa using fun a b c => String.le_trans
    · simpa using String.le_total
  have hnodup : router.profiles.Nodup := (List.mergeSort_perm _ _).nodup_iff.mpr h
  rw [List.pairwise_map]
  exact (hsorted.and hnodup).imp fun ⟨hle, hne⟩ =>
    Text.utf8_lt_utf8 (Std.lt_of_le_of_ne (of_decide_eq_true hle) hne)

/-! ## Runs -/

/-- What is asked of a router. -/
inductive Registration where
  | profile (name : String) (service : Service)
  | endpoint (pattern : String) (endpoint : Endpoint)

/-- The profile that is to be registered, if one is. -/
def Registration.profile? : Registration → Option (String × Service)
  | profile name service => some (name, service)
  | endpoint _ _ => none

/-- The router after a registration, whether it succeeds or not. -/
def register (router : Router) : Registration → Router
  | .profile name service => (router.addProfile name service).2
  | .endpoint pattern endpoint => (router.addEndpoint pattern endpoint).2

/-- A new router after some registrations, one after the other. -/
def after (registrations : List Registration) : Router := registrations.foldl register new

/-- The profiles that were to be registered, in their order. -/
def offered (registrations : List Registration) : List (String × Service) :=
  registrations.filterMap Registration.profile?

/-- The service that was first to be registered under a name. -/
def firstOffered? (registrations : List Registration) (name : String) : Option Service :=
  ((offered registrations).find? fun profile => profile.1 = name).map Prod.snd

theorem offered_concat (registrations : List Registration) (registration : Registration) :
    offered (registrations ++ [registration]) =
      offered registrations ++ registration.profile?.toList := by
  cases registration <;> simp [offered, Registration.profile?]

theorem firstOffered?_concat (registrations : List Registration) (registration : Registration)
    (name : String) :
    firstOffered? (registrations ++ [registration]) name =
      (firstOffered? registrations name).or
        ((registration.profile?.toList.find? fun profile => profile.1 = name).map Prod.snd) := by
  rw [firstOffered?, offered_concat, List.find?_append, Option.map_or, firstOffered?]

theorem services_addEndpoint (pattern : String) (endpoint : Endpoint) :
    (router.addEndpoint pattern endpoint).2.services = router.services := by
  unfold addEndpoint
  split
  · rfl
  · dsimp only
    split <;> rfl

/-- One step. -/
theorem service?_register (registration : Registration) (name : String) :
    (router.register registration).service? name = (router.service? name).or
      ((registration.profile?.toList.find? fun profile => profile.1 = name).map Prod.snd) := by
  cases registration with
  | profile profile service =>
    rw [register, service?_addProfile]
    by_cases hname : profile = name <;> simp [Registration.profile?, hname]
  | endpoint pattern endpoint =>
    rw [register, service?, services_addEndpoint, ← service?]
    exact (Option.or_none ..).symm

theorem nodup_register (h : (router.services.map Prod.fst).Nodup) (registration : Registration) :
    ((router.register registration).services.map Prod.fst).Nodup := by
  cases registration with
  | profile profile service =>
    rw [register, addProfile]
    cases hservice : router.service? profile with
    | some old => exact h
    | none =>
      have hnew : profile ∉ router.services.map Prod.fst := fun hmem => by
        rw [← isSome_find?_iff, ← service?, hservice] at hmem
        cases hmem
      rw [List.map_append]
      exact h.append (List.nodup_singleton _) (List.disjoint_singleton.mpr hnew)
  | endpoint pattern endpoint =>
    rw [register, services_addEndpoint]
    exact h

theorem after_concat (registrations : List Registration) (registration : Registration) :
    after (registrations ++ [registration]) = (after registrations).register registration :=
  List.foldl_concat ..

theorem service?_after (registrations : List Registration) (name : String) :
    (after registrations).service? name = firstOffered? registrations name := by
  induction registrations using List.reverseRecOn with
  | nil => rfl
  | append_singleton registrations registration ih =>
    rw [after_concat, service?_register, ih, firstOffered?_concat]

theorem isSome_service?_after (registrations : List Registration) (name : String) :
    ((after registrations).service? name).isSome = true ↔
      name ∈ (offered registrations).map Prod.fst := by
  rw [service?_after, firstOffered?, isSome_find?_iff]

theorem nodup_after (registrations : List Registration) :
    ((after registrations).services.map Prod.fst).Nodup := by
  induction registrations using List.reverseRecOn with
  | nil => exact List.nodup_nil
  | append_singleton registrations registration ih =>
    rw [after_concat]
    exact nodup_register _ ih registration

/-! ## Refused patterns -/

theorem addEndpoint_of_insert {pattern : String} {endpoint : Endpoint} {tokens : Path.Pattern}
    {error : PatternError} (hread : Pattern.read pattern = .ok tokens)
    (herror : (router.table.insert tokens endpoint).1 = some error) :
    router.addEndpoint pattern endpoint =
      (.error (refusal pattern error),
        { router with table := (router.table.insert tokens endpoint).2 }) := by
  rw [addEndpoint, hread]
  simp only [herror]

/-- A pattern that is refused leaves all matches as they were, unless it has a second parameter in
a segment or a catch-all that is not its end. -/
theorem matchPath_addEndpoint {pattern : String} {endpoint : Endpoint} {e : GatewayError}
    (h : (router.addEndpoint pattern endpoint).1 = .error e)
    (hparameter : e ≠ .invalidRoutePattern pattern PatternError.parameterPerSegment.message)
    (hcatchAll : e ≠ .invalidRoutePattern pattern PatternError.catchAllNotLast.message)
    (path : String) :
    (router.addEndpoint pattern endpoint).2.matchPath path = router.matchPath path := by
  cases hread : Pattern.read pattern with
  | error error => rw [addEndpoint, hread]
  | ok tokens =>
    cases herror : (router.table.insert tokens endpoint).1 with
    | none =>
      rw [addEndpoint, hread] at h
      simp only [herror] at h
      cases h
    | some error =>
      rw [router.addEndpoint_of_insert hread herror] at h ⊢
      obtain rfl : refusal pattern error = e := Except.error.inj h
      rcases Table.insert_cases herror with rfl | rfl | ⟨other, rfl⟩
      · exact absurd rfl hparameter
      · exact absurd rfl hcatchAll
      · rw [matchPath, matchPath, Table.match?_insert_of_conflict herror]

/-- Two parameters in a segment: what is left of the pattern takes a path away from the built-in
patterns. -/
theorem matchPath_addEndpoint_refused :
    (new.addEndpoint "/route/v1/{p}.x/{b}{c}" .route).1 =
        .error (.invalidRoutePattern "/route/v1/{p}.x/{b}{c}"
          "Only one parameter is allowed per path segment") ∧
      new.matchPath "/route/v1/a.x/1,1;2,2" =
        .ok { value := .route, parameters := [("profile", "a.x"), ("coordinates", "1,1;2,2")] } ∧
      (new.addEndpoint "/route/v1/{p}.x/{b}{c}" .route).2.matchPath "/route/v1/a.x/1,1;2,2" =
        .error (.routeNotFound "/route/v1/a.x/1,1;2,2") := by
  have hread : Pattern.read "/route/v1/{p}.x/{b}{c}" =
      .ok (Path.text "/route/v1/" ++ Path.param "p" ++ Path.text ".x/" ++ Path.param "b" ++
        Path.param "c") := rfl
  have herror : (new.table.insert (Path.text "/route/v1/" ++ Path.param "p" ++ Path.text ".x/" ++
      Path.param "b" ++ Path.param "c") Endpoint.route).1 = some .parameterPerSegment := by
    decide +kernel
  have hbefore : (PathKind.coordinates "a.x" "1,1;2,2").Describes "/route/v1/a.x/1,1;2,2" :=
    ⟨⟨nofun, by decide⟩, ⟨nofun, by decide⟩, rfl⟩
  have hafter : (new.table.insert (Path.text "/route/v1/" ++ Path.param "p" ++ Path.text ".x/" ++
      Path.param "b" ++ Path.param "c") Endpoint.route).2.match? "/route/v1/a.x/1,1;2,2" = none :=
    Option.isNone_iff_eq_none.mp (by decide +kernel)
  rw [new.addEndpoint_of_insert hread herror]
  exact ⟨rfl, PathKind.matchPath_of_describes rfl hbefore, by rw [matchPath, hafter]⟩

/-! ## What is registered -/

/-- What a router has to show for registrations that were asked for. -/
structure RegisteredBy (registrations : List Registration) (router : Router) : Prop where
  /-- A name is refused exactly where it was registered before. -/
  duplicate : ∀ profile service, (router.addProfile profile service).1 =
    if profile ∈ (offered registrations).map Prod.fst then .error (.duplicateProfile profile)
    else .ok ()
  /-- A profile that is refused changes nothing. -/
  refused : ∀ profile service e, (router.addProfile profile service).1 = .error e →
    (router.addProfile profile service).2 = router
  service : ∀ profile, router.service? profile = firstOffered? registrations profile
  listed : ∀ profile, profile ∈ router.profiles ↔ profile ∈ (offered registrations).map Prod.fst
  sorted : (router.profiles.map Text.utf8).Pairwise (· < ·)
  /-- Profiles make no difference to paths. -/
  paths : ∀ profile service path,
    (router.addProfile profile service).2.matchPath path = router.matchPath path
  /-- Patterns make no difference to profiles, whether they are refused or not. -/
  patterns : ∀ pattern endpoint,
    (router.addEndpoint pattern endpoint).2.profiles = router.profiles ∧
    ∀ profile, (router.addEndpoint pattern endpoint).2.service? profile = router.service? profile
  /-- A pattern that is refused changes nothing, unless it has a second parameter in a segment or
  a catch-all that is not its end. -/
  remnants : ∀ pattern endpoint e, (router.addEndpoint pattern endpoint).1 = .error e →
    e ≠ .invalidRoutePattern pattern PatternError.parameterPerSegment.message →
    e ≠ .invalidRoutePattern pattern PatternError.catchAllNotLast.message →
    ∀ path, (router.addEndpoint pattern endpoint).2.matchPath path = router.matchPath path

theorem registeredBy_after (registrations : List Registration) :
    RegisteredBy registrations (after registrations) where
  duplicate profile service := by
    have hknown := isSome_service?_after registrations profile
    rw [addProfile]
    cases hservice : (after registrations).service? profile with
    | some old => rw [if_pos (hknown.mp (by rw [hservice]; rfl))]
    | none => rw [if_neg fun hmem => by simpa [hservice] using hknown.mpr hmem]
  refused profile service e h := by
    unfold addProfile at h ⊢
    cases hservice : (after registrations).service? profile with
    | some old => rfl
    | none =>
      rw [hservice] at h
      cases h
  service profile := service?_after registrations profile
  listed profile := by rw [mem_profiles_iff, isSome_service?_after]
  sorted := pairwise_profiles _ (nodup_after registrations)
  paths profile service path := by rw [matchPath, matchPath, table_addProfile]
  patterns pattern endpoint := by
    simp only [profiles, service?, services_addEndpoint]
    exact ⟨trivial, fun _ => trivial⟩
  remnants _ _ _ h hparameter hcatchAll := matchPath_addEndpoint _ h hparameter hcatchAll

end RoutingGateway.Router
