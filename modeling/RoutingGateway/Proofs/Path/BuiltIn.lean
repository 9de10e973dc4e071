/-
Which paths the built-in patterns match.

Where every branch goes on with a literal, `search` only follows the path's
next character (`search_of_literals`), so text that is common to all branches
is passed at once (`search_prefixed`). The three built-in patterns are told
apart by one character behind their first slash. What the parameters of route
queries take is a segment each: the profile up to a slash or the end, the
coordinates up to the end (`search_profile`, `search_coordinates`).
`match?_cases` and its converses put these together.
-/
import Mathlib.Data.List.TakeWhile
import RoutingGateway.Proofs.Text.Separated
import RoutingGateway.Router

namespace RoutingGateway.Path

open RoutingGateway.Text

variable {α : Type}

/-! ## Literal text -/

/-- The branch goes on with a literal. -/
def Branch.IsLiteral (b : Branch α) : Prop := ∃ c rest, b.rest = .literal c :: rest

/-- The branches with some text in front of what is left of them. -/
def prefixed (text : List Char) (branches : List (Branch α)) : List (Branch α) :=
  branches.map fun b => { b with rest := text.map .literal ++ b.rest }

theorem search_none (path : List Char) : search ([] : List (Branch α)) path = none := by
  cases path with
  | nil => rw [search]; rfl
  | cons c rest => rw [search]; rfl

theorem ended?_of_literals {branches : List (Branch α)} (h : ∀ b ∈ branches, b.IsLiteral) :
    ended? branches = none := by
  unfold ended?
  rw [List.findSome?_eq_none_iff]
  intro b hb
  obtain ⟨c, rest, hrest⟩ := h b hb
  simp [hrest]

theorem afterParameter_of_literals {branches : List (Branch α)}
    (h : ∀ b ∈ branches, b.IsLiteral) : afterParameter branches = [] := by
  unfold afterParameter
  rw [List.filterMap_eq_nil_iff]
  intro b hb
  obtain ⟨c, rest, hrest⟩ := h b hb
  simp [hrest]

theorem catchAll?_of_literals {branches : List (Branch α)} (h : ∀ b ∈ branches, b.IsLiteral) :
    catchAll? branches = none := by
  unfold catchAll?
  rw [List.findSome?_eq_none_iff]
  intro b hb
  obtain ⟨c, rest, hrest⟩ := h b hb
  simp [hrest]

/-- Where every branch goes on with a literal, the path goes on with one of these. -/
theorem search_of_literals {branches : List (Branch α)} (h : ∀ b ∈ branches, b.IsLiteral)
    (c : Char) (rest : List Char) :
    search branches (c :: rest) = search (afterLiteral c branches) rest := by
  rw [search, afterParameter_of_literals h, catchAll?_of_literals h]
  cases hnext : afterLiteral c branches with
  | nil => rw [search_none]; rfl
  | cons b more =>
    cases hfound : search (b :: more) rest with
    | none => simp [hfound]
    | some found => simp [hfound]

theorem search_nil_of_literals {branches : List (Branch α)} (h : ∀ b ∈ branches, b.IsLiteral) :
    search branches [] = none := by
  rw [search, ended?_of_literals h]
  rfl

theorem isLiteral_of_mem_prefixed {c : Char} {text : List Char} {branches : List (Branch α)} :
    ∀ b ∈ prefixed (c :: text) branches, b.IsLiteral := by
  intro b hb
  obtain ⟨b', -, rfl⟩ := List.mem_map.mp hb
  exact ⟨c, text.map .literal ++ b'.rest, rfl⟩

theorem afterLiteral_prefixed (d c : Char) (text : List Char) (branches : List (Branch α)) :
    afterLiteral d (prefixed (c :: text) branches) =
      if d = c then prefixed text branches else [] := by
  by_cases h : d = c
  · simp [prefixed, afterLiteral, h]
  · simp [prefixed, afterLiteral, h]

/-- Text that is common to all branches is passed, or nothing matches. -/
theorem search_prefixed (text : List Char) (branches : List (Branch α)) (path : List Char) :
    search (prefixed text branches) path = (dropStart? text path).bind (search branches) := by
  induction text generalizing path with
  | nil => simp [prefixed, dropStart?]
  | cons c text ih =>
    cases path with
    | nil => rw [search_nil_of_literals isLiteral_of_mem_prefixed]; rfl
    | cons d rest =>
      rw [search_of_literals isLiteral_of_mem_prefixed, afterLiteral_prefixed]
      by_cases h : d = c
      · rw [if_pos h, ih, h]
        simp [dropStart?]
      · rw [if_neg h, search_none]
        simp [dropStart?, Ne.symm h]

/-- Two runs of branches that go on with different literals match on their own. -/
theorem search_append {c d : Char} (h : c ≠ d) {s t : List Char} {front back : List (Branch α)}
    (path : List Char) :
    search (prefixed (c :: s) front ++ prefixed (d :: t) back) path =
      (search (prefixed (c :: s) front) path).or (search (prefixed (d :: t) back) path) := by
  have hliteral : ∀ b ∈ prefixed (c :: s) front ++ prefixed (d :: t) back, b.IsLiteral :=
    List.forall_mem_append.mpr ⟨isLiteral_of_mem_prefixed, isLiteral_of_mem_prefixed⟩
  cases path with
  | nil =>
    rw [search_nil_of_literals hliteral, search_nil_of_literals isLiteral_of_mem_prefixed,
      search_nil_of_literals isLiteral_of_mem_prefixed]
    rfl
  | cons x rest =>
    have hnext : afterLiteral x (prefixed (c :: s) front ++ prefixed (d :: t) back) =
        afterLiteral x (prefixed (c :: s) front) ++ afterLiteral x (prefixed (d :: t) back) :=
      List.filterMap_append
    rw [search_of_literals hliteral, search_of_literals isLiteral_of_mem_prefixed,
      search_of_literals isLiteral_of_mem_prefixed, hnext, afterLiteral_prefixed,
      afterLiteral_prefixed]
    by_cases hc : x = c
    · rw [if_pos hc, if_neg (hc ▸ h), List.append_nil, search_none, Option.or_none]
    · rw [if_neg hc, List.nil_append, search_none, Option.none_or]

/-! ## Segments -/

/-- A text that a parameter can stand for. -/
def Segment (text : List Char) : Prop := text ≠ [] ∧ '/' ∉ text

/-- A path is empty, begins with a slash, or begins with a segment that it ends with
or that has a slash behind it. -/
theorem segment_cases (path : List Char) :
    path = [] ∨ (∃ rest, path = '/' :: rest) ∨ Segment path ∨
      ∃ text rest, Segment text ∧ path = text ++ '/' :: rest := by
  cases hcut : cut '/' path with
  | none =>
    by_cases hpath : path = []
    · exact .inl hpath
    · exact .inr (.inr (.inl ⟨hpath, cut_eq_none_iff.mp hcut⟩))
  | some parts =>
    obtain ⟨hpath, hnot⟩ := cut_eq_some_iff.mp (show _ = some (parts.1, parts.2) from hcut)
    by_cases htext : parts.1 = []
    · rw [htext] at hpath
      exact .inr (.inl ⟨parts.2, hpath⟩)
    · exact .inr (.inr (.inr ⟨parts.1, parts.2, ⟨htext, hnot⟩, hpath⟩))

theorem Segment.takeWhile {text : List Char} (h : Segment text) (rest : List Char) :
    (text ++ '/' :: rest).takeWhile (· != '/') = text := by
  have hall : ∀ c ∈ text, (c != '/') = true := fun _ hc => bne_iff_ne.mpr fun e => h.2 (e ▸ hc)
  rw [List.takeWhile_append_of_pos hall]
  simp

theorem Segment.dropWhile {text : List Char} (h : Segment text) (rest : List Char) :
    (text ++ '/' :: rest).dropWhile (· != '/') = '/' :: rest := by
  have hall : ∀ c ∈ text, (c != '/') = true := fun _ hc => bne_iff_ne.mpr fun e => h.2 (e ▸ hc)
  rw [List.dropWhile_append_of_pos hall]
  simp

theorem Segment.takeWhile_self {text : List Char} (h : Segment text) :
    text.takeWhile (· != '/') = text :=
  List.takeWhile_eq_self_iff.mpr fun _ hc => bne_iff_ne.mpr fun e => h.2 (e ▸ hc)

theorem Segment.dropWhile_self {text : List Char} (h : Segment text) :
    text.dropWhile (· != '/') = [] :=
  List.dropWhile_eq_nil_iff.mpr fun _ hc => bne_iff_ne.mpr fun e => h.2 (e ▸ hc)

section Parameters

variable {branches : List (Branch α)} (hliteral : ∀ c, afterLiteral c branches = [])
  {b : Branch α} {more : List (Branch α)} (hunder : afterParameter branches = b :: more)
  {text : List Char} (h : Segment text)

include hliteral hunder

/-- A parameter is not empty. -/
theorem search_slash (rest : List Char) : search branches ('/' :: rest) = none := by
  rw [search, hliteral, hunder]
  simp

include h

/-- A parameter takes a path without a slash, unless an ending fits. -/
theorem search_segment (hfits : (forks (b :: more)).find? (Fork.fits text) = none) :
    search branches text = (ended? (b :: more)).map fun found => (found, [text]) := by
  obtain ⟨c, rest, rfl⟩ := List.exists_cons_of_ne_nil h.1
  rw [search, hliteral, hunder]
  simp only [h.takeWhile_self, h.dropWhile_self, List.take_nil, List.append_nil, hfits]
  rw [dif_neg h.1, if_pos trivial]

/-- A parameter with a slash behind it goes to the fork that fits. -/
theorem search_segment_slash (rest : List Char) :
    search branches (text ++ '/' :: rest) =
      ((forks (b :: more)).find? (Fork.fits (text ++ ['/']))).bind fun fork =>
        (search fork.branches rest).map fun (found, texts) =>
          (found, (text ++ ['/']).take ((text ++ ['/']).length - fork.ending.length) :: texts) := by
  obtain ⟨c, more', rfl⟩ := List.exists_cons_of_ne_nil h.1
  have htake := h.takeWhile rest
  have hdrop := h.dropWhile rest
  rw [List.cons_append] at htake hdrop ⊢
  rw [search, hliteral, hunder]
  simp only [htake, hdrop]
  rw [dif_neg h.1]
  cases hfork : (forks (b :: more)).find? (Fork.fits (c :: more' ++ ['/'])) with
  | none =>
    rw [List.cons_append] at hfork
    simp [hfork]
  | some fork =>
    rw [List.cons_append] at hfork
    simp [hfork]

end Parameters

/-! ## The built-in patterns -/

/-- The literal text in front of the profile. -/
def routeStart : String := "/route/v1/"

/-- What is left of the route patterns behind their literal text. -/
def profileBranches : List (Branch Endpoint) :=
  [{ rest := [.parameter "a"]
     entry := { pattern := Router.routePattern, value := some .route } },
   { rest := [.parameter "a", .literal '/', .parameter "b"]
     entry := { pattern := Router.coordinatesPattern, value := some .route } }]

/-- What is left of the pattern with coordinates behind the profile. -/
def coordinatesBranches : List (Branch Endpoint) :=
  [{ rest := [.parameter "b"]
     entry := { pattern := Router.coordinatesPattern, value := some .route } }]

/-- The pattern of the probe, followed to its end. -/
def healthBranches : List (Branch Endpoint) :=
  [{ rest := [], entry := { pattern := Router.healthPattern, value := some .health } }]

theorem branches_new : Router.new.table.branches =
    prefixed "/".toList
      (prefixed "route/v1/".toList profileBranches ++ prefixed "health".toList healthBranches) := by
  rfl

theorem afterParameter_coordinatesBranches : afterParameter coordinatesBranches =
    [{ rest := []
       entry := { pattern := Router.coordinatesPattern, value := some .route } }] := rfl

theorem afterParameter_profileBranches : afterParameter profileBranches =
    [{ rest := []
       entry := { pattern := Router.routePattern, value := some .route } },
     { rest := [.literal '/', .parameter "b"]
       entry := { pattern := Router.coordinatesPattern, value := some .route } }] := rfl

theorem search_coordinates {text : List Char} (h : Segment text) :
    search coordinatesBranches text = some ((Router.coordinatesPattern, .route), [text]) := by
  rw [search_segment (fun _ => rfl) afterParameter_coordinatesBranches h rfl]
  rfl

theorem segment_of_search_coordinates {path : List Char} {found}
    (h : search coordinatesBranches path = some found) : Segment path := by
  rcases segment_cases path with rfl | ⟨rest, rfl⟩ | hpath | ⟨text, rest, htext, rfl⟩
  · rw [search] at h
    cases h
  · rw [search_slash (fun _ => rfl) afterParameter_coordinatesBranches] at h
    cases h
  · exact hpath
  · rw [search_segment_slash (fun _ => rfl) afterParameter_coordinatesBranches htext] at h
    cases h

/-- The one ending of a profile that has something behind it. -/
theorem forks_profileBranches : forks (afterParameter profileBranches) =
    [{ ending := ['/'], branches := coordinatesBranches }] := rfl

theorem search_profile {text : List Char} (h : Segment text) :
    search profileBranches text = some ((Router.routePattern, .route), [text]) := by
  have hfits : (forks (afterParameter profileBranches)).find? (Fork.fits text) = none := by
    have hsuffix : ['/'].isSuffixOf text = false := by
      rw [Bool.eq_false_iff, ne_eq, List.isSuffixOf_iff_suffix]
      exact fun hsuffix => h.2 (hsuffix.subset (by simp))
    simp [forks_profileBranches, Fork.fits, hsuffix]
  rw [search_segment (fun _ => rfl) afterParameter_profileBranches h hfits]
  rfl

theorem search_profile_slash {text : List Char} (h : Segment text) (rest : List Char) :
    search profileBranches (text ++ '/' :: rest) =
      (search coordinatesBranches rest).map fun (found, texts) => (found, text :: texts) := by
  have hfits : (forks (afterParameter profileBranches)).find? (Fork.fits (text ++ ['/'])) =
      some { ending := ['/'], branches := coordinatesBranches } := by
    have hlength : 0 < text.length := List.length_pos_iff.mpr h.1
    have hsuffix : ['/'].isSuffixOf (text ++ ['/']) = true :=
      List.isSuffixOf_iff_suffix.mpr (List.suffix_append text ['/'])
    simp [forks_profileBranches, Fork.fits, hlength, hsuffix]
  rw [search_segment_slash (fun _ => rfl) afterParameter_profileBranches h,
    ← afterParameter_profileBranches, hfits]
  simp

theorem search_healthBranches_nil :
    search healthBranches [] = some ((Router.healthPattern, .health), []) := by
  rw [search]
  rfl

theorem search_healthBranches_cons (c : Char) (rest : List Char) :
    search healthBranches (c :: rest) = none := by
  rw [search]
  rfl

/-- A path goes on behind its first slash as a route query or as the probe. -/
theorem search_new (path : List Char) :
    search Router.new.table.branches path =
      (dropStart? "/".toList path).bind fun rest =>
        ((dropStart? "route/v1/".toList rest).bind (search profileBranches)).or
          ((dropStart? "health".toList rest).bind (search healthBranches)) := by
  rw [branches_new, search_prefixed]
  congr 1
  funext rest
  rw [← search_prefixed, ← search_prefixed]
  exact search_append (show 'r' ≠ 'h' by decide) rest

/-- The literal text of route queries leads to their profile. -/
theorem search_route (rest : List Char) :
    search Router.new.table.branches (routeStart.toList ++ rest) =
      search profileBranches rest := by
  rw [search_new, show routeStart.toList ++ rest = "/".toList ++ ("route/v1/".toList ++ rest) from rfl,
    dropStart?_append, Option.bind_some, dropStart?_append, Option.bind_some,
    show dropStart? "health".toList ("route/v1/".toList ++ rest) = none from rfl, Option.bind_none,
    Option.or_none]

theorem search_health :
    search Router.new.table.branches "/health".toList =
      some ((Router.healthPattern, .health), []) := by
  rw [search_new, ← search_healthBranches_nil]
  rfl

/-- Nothing else has a match. -/
theorem search_cases {path : List Char} {found}
    (h : search Router.new.table.branches path = some found) :
    path = "/health".toList ∨
    (∃ profile, Segment profile ∧ path = routeStart.toList ++ profile) ∨
    ∃ profile coordinates, Segment profile ∧ Segment coordinates ∧
      path = routeStart.toList ++ (profile ++ '/' :: coordinates) := by
  rw [search_new] at h
  obtain ⟨behind, hbehind, hor⟩ := Option.bind_eq_some_iff.mp h
  have hpath := dropStart?_eq_some_iff.mp hbehind
  rcases Option.or_eq_some_iff.mp hor with hroute | ⟨-, hhealth⟩
  · obtain ⟨rest, hrest, hsearch⟩ := Option.bind_eq_some_iff.mp hroute
    have hparted : path = routeStart.toList ++ rest := by
      rw [hpath, dropStart?_eq_some_iff.mp hrest]
      rfl
    rcases segment_cases rest with rfl | ⟨more, rfl⟩ | hprofile | ⟨profile, more, hprofile, rfl⟩
    · rw [search] at hsearch
      cases hsearch
    · rw [search_slash (fun _ => rfl) afterParameter_profileBranches] at hsearch
      cases hsearch
    · exact .inr (.inl ⟨rest, hprofile, hparted⟩)
    · rw [search_profile_slash hprofile] at hsearch
      obtain ⟨found, hfound, -⟩ := Option.map_eq_some_iff.mp hsearch
      exact .inr (.inr ⟨profile, more, hprofile, segment_of_search_coordinates hfound, hparted⟩)
  · obtain ⟨rest, hrest, hsearch⟩ := Option.bind_eq_some_iff.mp hhealth
    rw [dropStart?_eq_some_iff.mp hrest] at hpath
    cases rest with
    | nil => exact .inl hpath
    | cons c rest =>
      rw [search_healthBranches_cons] at hsearch
      cases hsearch

/-! ## Matches -/

theorem match?_health : Router.new.table.match? "/health" =
    some { value := .health, parameters := [] } := by
  rw [Table.match?, search_health]
  rfl

theorem match?_profile {profile : List Char} (h : Segment profile) :
    Router.new.table.match? (String.ofList (routeStart.toList ++ profile)) =
      some { value := .route, parameters := [("profile", String.ofList profile)] } := by
  rw [Table.match?, String.toList_ofList, search_route, search_profile h]
  rfl

theorem match?_coordinates {profile coordinates : List Char} (hprofile : Segment profile)
    (hcoordinates : Segment coordinates) :
    Router.new.table.match?
        (String.ofList (routeStart.toList ++ (profile ++ '/' :: coordinates))) =
      some
        { value := .route
          parameters := [("profile", String.ofList profile),
            ("coordinates", String.ofList coordinates)] } := by
  rw [Table.match?, String.toList_ofList, search_route, search_profile_slash hprofile,
    search_coordinates hcoordinates]
  rfl

/-- No other path has a match. -/
theorem match?_cases {path : String} {m : Match Endpoint}
    (h : Router.new.table.match? path = some m) :
    path = "/health" ∨
    (∃ profile, Segment profile ∧ path = String.ofList (routeStart.toList ++ profile)) ∨
    ∃ profile coordinates, Segment profile ∧ Segment coordinates ∧
      path = String.ofList (routeStart.toList ++ (profile ++ '/' :: coordinates)) := by
  obtain ⟨found, hfound, -⟩ := Option.map_eq_some_iff.mp h
  have hpath : path = String.ofList path.toList := String.ofList_toList.symm
  rcases search_cases hfound with hhealth | ⟨profile, hprofile, hroute⟩ |
    ⟨profile, coordinates, hprofile, hcoordinates, hroute⟩
  · rw [hhealth] at hpath
    exact .inl hpath
  · rw [hroute] at hpath
    exact .inr (.inl ⟨profile, hprofile, hpath⟩)
  · rw [hroute] at hpath
    exact .inr (.inr ⟨profile, coordinates, hprofile, hcoordinates, hpath⟩)

end RoutingGateway.Path
