/-
What the excluded classes decide, and what becomes of the container.

The verdict of the engine is told by two sets, that of the classes it knows and that of
the classes a request excludes: a class that it does not know comes before an exclusion
of all that it knows (`refusal?_eq`). How often a class stands in a list, and where, has no
part in it, nor has what the container held before (`refusal?_congr_of_mem`).

A refusal is a new document, whatever the container was. A route is written into the container
that is there: behind the bytes of a buffer, or into three fields of a document, and all
other fields are left as they were (`route_by_exclude`).
-/
import RoutingGateway.Proofs.GreatCircle
import RoutingGateway.Proofs.Json.Document

namespace RoutingGateway.GreatCircle

variable {engine engine' : GreatCircle} {exclude exclude' : List String}

/-! ## The verdict -/

/-- A class is excluded that the engine does not know. -/
def ExcludesUnknown (engine : GreatCircle) (exclude : List String) : Prop :=
  ∃ c ∈ exclude, c ∉ engine.classes

/-- The engine knows some classes, and all of them are excluded. -/
def ExcludesAll (engine : GreatCircle) (exclude : List String) : Prop :=
  engine.classes ≠ [] ∧ ∀ c ∈ engine.classes, c ∈ exclude

instance (engine : GreatCircle) (exclude : List String) :
    Decidable (engine.ExcludesUnknown exclude) :=
  inferInstanceAs (Decidable (∃ c ∈ exclude, c ∉ engine.classes))

instance (engine : GreatCircle) (exclude : List String) :
    Decidable (engine.ExcludesAll exclude) :=
  inferInstanceAs (Decidable (engine.classes ≠ [] ∧ ∀ c ∈ engine.classes, c ∈ exclude))

theorem refusal?_eq (engine : GreatCircle) (exclude : List String) :
    engine.refusal? exclude =
      if engine.ExcludesUnknown exclude then
        some ("InvalidValue", "Exclude flag combination is not supported.")
      else if engine.ExcludesAll exclude then
        some ("NoRoute", "Impossible route between points")
      else none := by
  have hunknown : (exclude.any fun c => !engine.classes.contains c) = true ↔
      engine.ExcludesUnknown exclude := by simp [ExcludesUnknown]
  have hall : (!engine.classes.isEmpty && engine.classes.all exclude.contains) = true ↔
      engine.ExcludesAll exclude := by simp [ExcludesAll]
  simp only [refusal?, hunknown, hall]

theorem refusal?_eq_invalidValue_iff :
    engine.refusal? exclude =
        some ("InvalidValue", "Exclude flag combination is not supported.") ↔
      engine.ExcludesUnknown exclude := by
  rw [refusal?_eq]
  split <;> simp_all

theorem refusal?_eq_noRoute_iff :
    engine.refusal? exclude = some ("NoRoute", "Impossible route between points") ↔
      ¬ engine.ExcludesUnknown exclude ∧ engine.ExcludesAll exclude := by
  rw [refusal?_eq]
  split <;> simp_all

theorem refusal?_eq_none_iff :
    engine.refusal? exclude = none ↔
      ¬ engine.ExcludesUnknown exclude ∧ ¬ engine.ExcludesAll exclude := by
  rw [refusal?_eq]
  split <;> simp_all

section SameClasses

variable (hclasses : ∀ c, c ∈ engine'.classes ↔ c ∈ engine.classes)
  (hexclude : ∀ c, c ∈ exclude' ↔ c ∈ exclude)

include hclasses hexclude

theorem excludesUnknown_congr :
    engine'.ExcludesUnknown exclude' ↔ engine.ExcludesUnknown exclude :=
  exists_congr fun c => and_congr (hexclude c) (not_congr (hclasses c))

theorem excludesAll_congr : engine'.ExcludesAll exclude' ↔ engine.ExcludesAll exclude := by
  refine and_congr (not_congr ?_) (forall_congr' fun c => imp_congr (hclasses c) (hexclude c))
  rw [List.eq_nil_iff_forall_not_mem, List.eq_nil_iff_forall_not_mem]
  exact forall_congr' fun c => not_congr (hclasses c)

/-- Only which classes there are counts, not how often and where they stand. -/
theorem refusal?_congr_of_mem : engine'.refusal? exclude' = engine.refusal? exclude := by
  simp only [refusal?_eq, excludesUnknown_congr hclasses hexclude,
    excludesAll_congr hclasses hexclude]

end SameClasses

/-! ## The container -/

theorem route_of_refused {code message : String} {p : Parameters}
    (h : engine.refusal? p.exclude = some (code, message)) (container : Container) :
    engine.route p container = (.error, .error code message) := by
  simp only [route, h]

theorem route_buffer_of_admitted {p : Parameters} (h : engine.refusal? p.exclude = none)
    (bytes : List UInt8) :
    engine.route p (.buffer bytes) =
      (.ok, .buffer (bytes ++ routeBytes (engine.legs p.coordinates))) := by
  simp only [route, h]

theorem route_document_of_admitted {p : Parameters} (h : engine.refusal? p.exclude = none)
    (doc : Document) :
    engine.route p (.document doc) =
      (.ok, .document (writeDocument p (engine.legs p.coordinates) doc)) := by
  simp only [route, h]

theorem status_route_eq_ok_iff (p : Parameters) (container : Container) :
    (engine.route p container).1 = .ok ↔ engine.refusal? p.exclude = none := by
  cases h : engine.refusal? p.exclude with
  | some refusal => simp [route_of_refused h container]
  | none => cases container <;> simp [route, h]

/-- A document of this code and message is what the engine answers if it refuses with them. -/
theorem route_eq_error_iff {code message : String} {p : Parameters} (container : Container) :
    engine.route p container = (.error, .error code message) ↔
      engine.refusal? p.exclude = some (code, message) := by
  refine ⟨fun h => ?_, fun h => route_of_refused h container⟩
  cases hrefusal : engine.refusal? p.exclude with
  | some refusal =>
    rw [route_of_refused hrefusal container] at h
    cases h
    rfl
  | none =>
    have hok := (status_route_eq_ok_iff p container).mpr hrefusal
    rw [h] at hok
    cases hok

theorem writeDocument_eq_insertAll (p : Parameters) (legs : List Leg) (doc : Document) :
    writeDocument p legs doc = doc.insertAll (writeDocument p legs .empty).fields := rfl

theorem keys_writeDocument_empty (p : Parameters) (legs : List Leg) :
    (writeDocument p legs .empty).keys = ["code", "routes", "waypoints"] := rfl

/-- A route is written over what the document holds as if it were written apart and put in. -/
theorem updatedBy_writeDocument (p : Parameters) (legs : List Leg) (doc : Document) :
    doc.UpdatedBy (writeDocument p legs .empty) (writeDocument p legs doc) := by
  rw [writeDocument_eq_insertAll p legs doc]
  refine Document.updatedBy_insertAll ?_ doc
  rw [keys_writeDocument_empty]
  decide

/-! ## Both -/

/-- The engine refuses a request that excludes a class it does not know, and else one that
excludes all that it knows; every other one it answers. Lists with the same classes in them
come to the same, in whatever container. A refusal is a document of a code and a message, and
nothing that the container held. A route stays in the container that there is: behind the bytes
of a buffer, or in three fields of a document, whose other fields stay as they are. -/
theorem route_by_exclude (engine : GreatCircle) (p : Parameters) (container : Container) :
    (engine.route p container = (.error, .document
        ⟨[("code", .string "InvalidValue"),
          ("message", .string "Exclude flag combination is not supported.")]⟩) ↔
      engine.ExcludesUnknown p.exclude) ∧
    (engine.route p container = (.error, .document
        ⟨[("code", .string "NoRoute"), ("message", .string "Impossible route between points")]⟩) ↔
      ¬ engine.ExcludesUnknown p.exclude ∧ engine.ExcludesAll p.exclude) ∧
    ((engine.route p container).1 = .ok ↔
      ¬ engine.ExcludesUnknown p.exclude ∧ ¬ engine.ExcludesAll p.exclude) ∧
    (∀ (engine' : GreatCircle) (p' : Parameters) (container' : Container),
      (∀ c, c ∈ engine'.classes ↔ c ∈ engine.classes) →
      (∀ c, c ∈ p'.exclude ↔ c ∈ p.exclude) →
      (engine'.route p' container').1 = (engine.route p container).1 ∧
        ((engine.route p container).1 = .error →
          engine'.route p' container' = engine.route p container)) ∧
    ((engine.route p container).1 = .ok →
      (∀ bytes, container = .buffer bytes → ∃ written,
        engine.route p .newBuffer = (.ok, .buffer written) ∧
        engine.route p container = (.ok, .buffer (bytes ++ written))) ∧
      ∀ doc, container = .document doc → ∃ fresh written,
        engine.route p .newDocument = (.ok, .document fresh) ∧
        engine.route p container = (.ok, .document written) ∧
        fresh.keys = ["code", "routes", "waypoints"] ∧ doc.UpdatedBy fresh written) := by
  refine ⟨(route_eq_error_iff container).trans refusal?_eq_invalidValue_iff,
    (route_eq_error_iff container).trans refusal?_eq_noRoute_iff,
    (status_route_eq_ok_iff p container).trans refusal?_eq_none_iff,
    fun engine' p' container' hclasses hexclude => ?_,
    fun hok => ⟨fun bytes hbytes => ?_, fun doc hdoc => ?_⟩⟩
  · have hsame := refusal?_congr_of_mem hclasses hexclude
    cases hrefusal : engine.refusal? p.exclude with
    | some refusal =>
      rw [hrefusal] at hsame
      rw [route_of_refused hsame container', route_of_refused hrefusal container]
      exact ⟨rfl, fun _ => rfl⟩
    | none =>
      rw [hrefusal] at hsame
      have hok := (status_route_eq_ok_iff p container).mpr hrefusal
      have hok' := (status_route_eq_ok_iff p' container').mpr hsame
      rw [hok, hok']
      exact ⟨rfl, nofun⟩
  · have hadmitted := (status_route_eq_ok_iff p container).mp hok
    rw [hbytes, route_buffer_of_admitted hadmitted]
    exact ⟨_, route_buffer_of_admitted hadmitted [], rfl⟩
  · have hadmitted := (status_route_eq_ok_iff p container).mp hok
    rw [hdoc, route_document_of_admitted hadmitted]
    exact ⟨_, _, route_document_of_admitted hadmitted .empty, rfl, keys_writeDocument_empty _ _,
      updatedBy_writeDocument _ _ doc⟩

end RoutingGateway.GreatCircle
