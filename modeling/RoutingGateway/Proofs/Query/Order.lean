/-
The order of the options.

Every key has a parameter of its own, and putting a setting in neither reads
nor changes another one, so settings of different keys commute
(`Setting.put_comm`). What belongs to a key that is not given stays as it is, and what
belongs to one that is given is what its setting puts in (`Key.Owns`); so the format
is the one that a setting names (`Sentence.format_parameters_eq_some_iff`).

No key is given twice in a query that is read to its end. A query with the same
pairs in another order is therefore read to its end as well, and to the same
parameters (`read_withPairs_of_perm`).
-/
import Mathlib.Data.List.Nodup
import Mathlib.Data.List.Perm.Basic
import RoutingGateway.Proofs.Query.Parser

namespace RoutingGateway.Query

open RoutingGateway.Text

/-! ## Settings -/

theorem Setting.put_comm {s t : Setting} (h : s.key ≠ t.key) (p : Parameters) :
    s.put (t.put p) = t.put (s.put p) := by
  cases s <;> cases t <;> simp_all [Setting.key, Setting.put]

/-- Settings of which no two have the same key may be put in in any order. -/
theorem foldl_put_perm {settings settings' : List Setting} (h : settings.Perm settings')
    (hdistinct : (settings.map Setting.key).Nodup) (p : Parameters) :
    settings.foldl (fun p s => s.put p) p = settings'.foldl (fun p s => s.put p) p := by
  refine h.foldl_eq' (fun s hs t ht q => ?_) p
  by_cases hkey : t.key = s.key
  · rw [List.inj_on_of_nodup_map hdistinct ht hs hkey]
  · exact Setting.put_comm hkey q

/-- What the view shows belongs to the key: the settings of all other keys leave it as it is. -/
def Key.Owns {α : Type} (key : Key) (view : Parameters → α) : Prop :=
  ∀ (s : Setting) (p : Parameters), s.key ≠ key → view (s.put p) = view p

section Owns

variable {α : Type} {key : Key} {view : Parameters → α} (h : key.Owns view)
  {settings : List Setting}

include h

/-- What belongs to a key that is not given stays as it is. -/
theorem Key.Owns.foldl_put (hother : ∀ s ∈ settings, s.key ≠ key) (p : Parameters) :
    view (settings.foldl (fun p s => s.put p) p) = view p := by
  induction settings generalizing p with
  | nil => rfl
  | cons s rest ih =>
    obtain ⟨hs, hrest⟩ := List.forall_mem_cons.mp hother
    rw [List.foldl_cons, ih hrest, h s p hs]

/-- What belongs to a key that is given once is what its setting puts in. -/
theorem Key.Owns.exists_foldl_put (hdistinct : (settings.map Setting.key).Nodup) {s : Setting}
    (hs : s ∈ settings) (hkey : s.key = key) (p : Parameters) :
    ∃ q, view (settings.foldl (fun p s => s.put p) p) = view (s.put q) := by
  obtain ⟨front, rest, rfl⟩ := List.append_of_mem hs
  rw [List.map_append, List.map_cons] at hdistinct
  have hrest : ∀ t ∈ rest, t.key ≠ key := fun t ht hother =>
    (List.nodup_cons.mp hdistinct.of_append_right).1
      (List.mem_map.mpr ⟨t, ht, hother.trans hkey.symm⟩)
  refine ⟨front.foldl (fun p s => s.put p) p, ?_⟩
  rw [List.foldl_append, List.foldl_cons, h.foldl_put hrest]

end Owns

theorem Key.owns_coordinates : Key.coordinates.Owns Parameters.coordinates := by
  intro s p _
  cases s <;> rfl

/-- Settings leave the coordinates as they are. -/
theorem Sentence.coordinates_parameters (s : Sentence) :
    s.parameters.coordinates = s.coordinates :=
  Key.owns_coordinates.foldl_put (fun setting _ => setting_key_ne_coordinates setting) _

theorem Key.owns_format : Key.format.Owns Parameters.format := by
  intro s p h
  cases s with
  | format _ => exact absurd rfl h
  | _ => rfl

/-- The format of the parameters is the one that is given. -/
theorem Sentence.format_parameters_eq_some_iff {s : Sentence} {format : OutputFormat} :
    s.parameters.format = some format ↔ .format format ∈ s.settings := by
  have hgiven : ∀ value, .format value ∈ s.settings → s.parameters.format = some value := by
    intro value hmem
    obtain ⟨q, hq⟩ := Key.owns_format.exists_foldl_put s.distinct hmem rfl
      { coordinates := s.coordinates }
    rw [Sentence.parameters, hq]
    rfl
  refine ⟨fun h => ?_, hgiven format⟩
  by_cases hkey : ∃ t ∈ s.settings, t.key = .format
  · obtain ⟨t, ht, hformat⟩ := hkey
    cases t with
    | format value => exact Option.some.inj (h.symm.trans (hgiven value ht)) ▸ ht
    | _ => cases hformat
  · rw [Sentence.parameters,
      Key.owns_format.foldl_put fun t ht hformat => hkey ⟨t, ht, hformat⟩] at h
    cases h

/-! ## Pairs -/

/-- A run over pairs comes to its end exactly where all of them are texts of settings, no
two of the same key; and then it has put the settings in. -/
theorem readPairs_eq_complete_iff {p r : Parameters} {start : Nat} {pairs : List (List Char)} :
    readPairs [.coordinates] p (located start pairs) = .complete r ↔
      ∃ settings, List.Forall₂ PairText pairs settings ∧ (settings.map Setting.key).Nodup ∧
        r = settings.foldl (fun p s => s.put p) p := by
  constructor
  · intro h
    rcases accepted_or_rejected List.nodup_nil pairs with
      ⟨settings, hall, hnodup⟩ | ⟨good, settings, bad, more, e, hsplit, hall, hnodup, hrejected⟩
    · rw [readPairs_of_accepted hall hnodup] at h
      cases h
      exact ⟨settings, hall, hnodup, rfl⟩
    · rw [hsplit, readPairs_of_rejected hall hnodup hrejected] at h
      cases h
  · intro ⟨settings, hall, hnodup, hr⟩
    rw [readPairs_of_accepted hall hnodup, hr]

/-- What comes of a run over pairs to its end does not depend on their order. -/
theorem readPairs_of_perm {p r : Parameters} {start start' : Nat} {pairs pairs' : List (List Char)}
    (hperm : pairs.Perm pairs')
    (h : readPairs [.coordinates] p (located start pairs) = .complete r) :
    readPairs [.coordinates] p (located start' pairs') = .complete r := by
  obtain ⟨settings, hall, hnodup, hr⟩ := readPairs_eq_complete_iff.mp h
  obtain ⟨settings', hall', hperm'⟩ := List.perm_comp_forall₂ hperm.symm hall
  have hnodup' : (settings'.map Setting.key).Nodup :=
    (hperm'.map Setting.key).nodup_iff.mpr hnodup
  exact readPairs_eq_complete_iff.mpr
    ⟨settings', hall', hnodup', by rw [hr, foldl_put_perm hperm'.symm hnodup]⟩

/-! ## Queries -/

namespace Parts

theorem ampersand_not_mem_of_mem_pairs {q : Parts} {pair : List Char} (h : pair ∈ q.pairs) :
    '&' ∉ pair := by
  unfold pairs at h
  cases hoptions : q.options with
  | none =>
    rw [hoptions] at h
    cases h
  | some options =>
    rw [hoptions] at h
    exact not_mem_of_mem_splitOn h

/-- The query with other pairs in the place of its own. -/
def withPairs (q : Parts) (pairs : List (List Char)) : Parts :=
  { q with options := if pairs = [] then none else some (['&'].intercalate pairs) }

theorem pairs_withPairs (q : Parts) {pairs : List (List Char)} (h : ∀ pair ∈ pairs, '&' ∉ pair) :
    (q.withPairs pairs).pairs = pairs := by
  by_cases hnil : pairs = []
  · simp only [withPairs, Parts.pairs, hnil, if_true]
  · simp only [withPairs, Parts.pairs, hnil, if_false]
    exact List.splitOn_intercalate '&' h hnil

end Parts

/-- A query is read by its list of coordinates and its pairs. -/
theorem Parts.read_text_of_pairs (q : Parts) :
    read q.text =
      match coordinates? q.list with
      | none => .noCoordinates (String.ofList q.list)
      | some coordinates =>
        readPairs [.coordinates] { coordinates }
          (located (width q.layout.opening + width q.list + 1) q.pairs) := by
  rw [q.read_text, readParts]
  cases coordinates? q.list with
  | none => rfl
  | some coordinates =>
    cases hoptions : q.options with
    | none => simp only [Parts.pairs, hoptions, located_nil, readPairs]
    | some options => simp only [Parts.pairs, hoptions]

/-- With its pairs in another order a query is read to its end as well, and to the same
parameters. -/
theorem read_withPairs_of_perm {q : Parts} {pairs : List (List Char)} (hperm : q.pairs.Perm pairs)
    {p : Parameters} (h : read q.text = .complete p) :
    read (q.withPairs pairs).text = .complete p := by
  have hpairs : (q.withPairs pairs).pairs = pairs :=
    q.pairs_withPairs fun pair hpair =>
      Parts.ampersand_not_mem_of_mem_pairs (hperm.mem_iff.mpr hpair)
  have hlist : (q.withPairs pairs).list = q.list := rfl
  rw [Parts.read_text_of_pairs] at h ⊢
  rw [hlist, hpairs]
  cases hcoordinates : coordinates? q.list with
  | none =>
    rw [hcoordinates] at h
    cases h
  | some coordinates =>
    rw [hcoordinates] at h
    exact readPairs_of_perm hperm h

end RoutingGateway.Query
