/-
When the parameters of a request agree, and what is said if they do not.

`Parameters.Agree` says it without an order of checks. Two definitions
decide it: the predicate `isValid`, and `validate`, which also names the first
violation. The lists come first in this, in their order of checks
(`Parameters.FirstMismatch`), and the number of coordinates last, however few there are
(`validate_first_violation`).
-/
import RoutingGateway.Validation

namespace RoutingGateway

/-- No two lists have the same name. -/
theorem PerCoordinate.name_inj {a b : PerCoordinate} (h : a.name = b.name) : a = b := by
  revert h
  cases a <;> cases b <;> decide

namespace Parameters

/-- There are two coordinates or more, and each list that goes with them is empty
or has one entry for each. -/
def Agree (p : Parameters) : Prop :=
  2 ≤ p.coordinates.length ∧ ∀ list, p.count list = 0 ∨ p.count list = p.coordinates.length

theorem mem_all (list : PerCoordinate) : list ∈ PerCoordinate.all := by
  cases list <;> decide

theorem isValid_iff_agree (p : Parameters) : p.isValid = true ↔ p.Agree := by
  unfold isValid Agree
  rw [Bool.and_eq_true, decide_eq_true_eq, List.all_eq_true]
  refine and_congr_right fun _ => ⟨fun h list => ?_, fun h list _ => ?_⟩
  · simpa using h list (mem_all list)
  · simpa using h list

theorem mismatch?_eq_none_iff (p : Parameters) :
    p.mismatch? = none ↔ ∀ list, p.count list = 0 ∨ p.count list = p.coordinates.length := by
  unfold mismatch?
  rw [List.find?_eq_none]
  constructor
  · intro h list
    have hlist := h list (mem_all list)
    simp only [Bool.and_eq_true, bne_iff_ne, ne_eq] at hlist
    omega
  · intro h list _
    have hlist := h list
    simp only [Bool.and_eq_true, bne_iff_ne, ne_eq]
    omega

theorem validate_eq_ok_iff_agree (p : Parameters) : p.validate = .ok () ↔ p.Agree := by
  unfold validate
  cases hlist : p.mismatch? with
  | some list =>
    have hnone : ¬ ∀ list, p.count list = 0 ∨ p.count list = p.coordinates.length := fun h => by
      rw [(mismatch?_eq_none_iff p).mpr h] at hlist
      cases hlist
    exact ⟨nofun, fun h => absurd h.2 hnone⟩
  | none =>
    have hall := (mismatch?_eq_none_iff p).mp hlist
    by_cases hfew : p.coordinates.length < 2
    · rw [if_pos hfew]
      exact ⟨nofun, fun h => absurd h.1 (Nat.not_le_of_lt hfew)⟩
    · rw [if_neg hfew]
      exact ⟨fun _ => ⟨Nat.le_of_not_lt hfew, hall⟩, fun _ => rfl⟩

/-! ## The first violation -/

/-- The list is neither empty nor of the size of the request. -/
def Mismatches (p : Parameters) (list : PerCoordinate) : Prop :=
  p.count list ≠ 0 ∧ p.count list ≠ p.coordinates.length

/-- The list does not fit the coordinates, and those that are checked before it do. -/
def FirstMismatch (p : Parameters) (list : PerCoordinate) : Prop :=
  p.Mismatches list ∧ ∃ front rest,
    [.hints, .bearings, .radiuses, .approaches] = front ++ list :: rest ∧
      ∀ earlier ∈ front, ¬ p.Mismatches earlier

theorem not_mismatches_iff {p : Parameters} {list : PerCoordinate} :
    ¬ p.Mismatches list ↔ p.count list = 0 ∨ p.count list = p.coordinates.length := by
  unfold Mismatches
  omega

theorem mismatch?_eq_some_iff {p : Parameters} {list : PerCoordinate} :
    p.mismatch? = some list ↔ p.FirstMismatch list := by
  have hcheck (list : PerCoordinate) :
      (p.count list != 0 && p.count list != p.coordinates.length) = true ↔ p.Mismatches list := by
    simp only [Mismatches, Bool.and_eq_true, bne_iff_ne]
  unfold mismatch? FirstMismatch
  rw [List.find?_eq_some_iff_append]
  simp only [hcheck, Bool.not_eq_true', ← Bool.not_eq_true]
  rfl

theorem validate_of_firstMismatch {p : Parameters} {list : PerCoordinate}
    (h : p.FirstMismatch list) :
    p.validate = .error (.sizeMismatch list (p.count list) p.coordinates.length) := by
  simp only [validate, mismatch?_eq_some_iff.mpr h]

theorem validate_of_few {p : Parameters} (hfits : ∀ list, ¬ p.Mismatches list)
    (hfew : p.coordinates.length < 2) : p.validate = .error .tooFewCoordinates := by
  have hnone : p.mismatch? = none :=
    p.mismatch?_eq_none_iff.mpr fun list => not_mismatches_iff.mp (hfits list)
  simp only [validate, hnone, if_pos hfew]

/-- Parameters that do not agree are told which constraint they violate. -/
theorem exists_validate_eq_error {p : Parameters} (h : ¬ p.Agree) : ∃ e, p.validate = .error e := by
  cases hp : p.validate with
  | error e => exact ⟨e, rfl⟩
  | ok _ => exact absurd ((validate_eq_ok_iff_agree p).mp hp) h

theorem validate_eq_error_cases {p : Parameters} {e : OptionError} (h : p.validate = .error e) :
    (∃ list, p.FirstMismatch list ∧ e = .sizeMismatch list (p.count list) p.coordinates.length) ∨
      ((∀ list, ¬ p.Mismatches list) ∧ p.coordinates.length < 2) ∧ e = .tooFewCoordinates := by
  cases hlist : p.mismatch? with
  | some list =>
    have hfirst := mismatch?_eq_some_iff.mp hlist
    rw [validate_of_firstMismatch hfirst] at h
    cases h
    exact .inl ⟨list, hfirst, rfl⟩
  | none =>
    have hfits : ∀ list, ¬ p.Mismatches list := fun list =>
      not_mismatches_iff.mpr (p.mismatch?_eq_none_iff.mp hlist list)
    by_cases hfew : p.coordinates.length < 2
    · rw [validate_of_few hfits hfew] at h
      cases h
      exact .inr ⟨⟨hfits, hfew⟩, rfl⟩
    · simp only [validate, hlist, if_neg hfew] at h
      cases h

/-- The check succeeds exactly where the parameters are valid. It fails on the first list whose size
is neither nothing nor that of the request, and names it with both sizes, also where there are
too few coordinates. It says that there are too few of them, and names no parameter, exactly
where there are and no list is at fault. -/
theorem validate_first_violation (p : Parameters) :
    (p.validate = .ok () ↔ p.isValid = true) ∧
    (∀ list : PerCoordinate,
      (∃ e, p.validate = .error e ∧ e.parameter? = some list.name ∧
        e.code = "PARAMETER_SIZE_MISMATCH" ∧
        e.message = "Number of elements in " ++ list.name ++ " size " ++ toString (p.count list) ++
          " does not match coordinate size " ++ toString p.coordinates.length) ↔
      p.FirstMismatch list) ∧
    ((∃ e, p.validate = .error e ∧ e.parameter? = none ∧ e.code = "TOO_FEW_COORDINATES" ∧
        e.message = "Number of coordinates needs to be at least two.") ↔
      (∀ list, ¬ p.Mismatches list) ∧ p.coordinates.length < 2) := by
  refine ⟨p.validate_eq_ok_iff_agree.trans p.isValid_iff_agree.symm, fun list => ⟨?_, fun h => ?_⟩,
    ?_, fun h => ?_⟩
  · rintro ⟨e, he, hname, -, -⟩
    obtain ⟨list', hfirst, rfl⟩ | ⟨-, rfl⟩ := validate_eq_error_cases he
    · have hlist : list' = list := PerCoordinate.name_inj (Option.some.inj hname)
      exact hlist ▸ hfirst
    · cases hname
  · exact ⟨_, validate_of_firstMismatch h, rfl, rfl, rfl⟩
  · rintro ⟨e, he, hname, -, -⟩
    obtain ⟨list, -, rfl⟩ | ⟨hfew, -⟩ := validate_eq_error_cases he
    · cases hname
    · exact hfew
  · exact ⟨_, validate_of_few h.1 h.2, rfl, rfl, rfl⟩

end Parameters

end RoutingGateway
