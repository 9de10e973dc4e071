/-
The reader of pairs against the grammar of pairs.

A pair is read exactly when it is a text of a setting whose key is not among
those seen, and then the setting is put in (`readPair_eq_ok_iff`). It is
refused exactly when it is `Rejected`, and for that reason
(`readPair_eq_error_iff`); neither the refusal nor its reason depends on the
parameters read so far.

The keys that the reader has seen always begin with the coordinates, while a
sentence has only its settings; `Seen` says how the two go together.
-/
import RoutingGateway.Proofs.Query.Value

namespace RoutingGateway.Query

open RoutingGateway.Decimal RoutingGateway.Text

/-! ## Characters -/

theorem Setting.ValueText.isValueChar {s : Setting} {text : List Char} (h : s.ValueText text) :
    ∀ c ∈ text, IsValueChar c := by
  have word {text : List Char} (h : text.all isWordChar = true) : ∀ c ∈ text, IsValueChar c :=
    fun c hc => (isValueChar_of_isWordChar h c hc).1
  cases s with
  | hints entries => exact EntriesText.isValueChar h fun _ _ => HintText.isValueChar
  | bearings entries => exact EntriesText.isValueChar h fun _ _ => BearingText.isValueChar
  | radiuses entries => exact EntriesText.isValueChar h fun _ _ => RadiusText.isValueChar
  | approaches entries => exact EntriesText.isValueChar h fun _ _ => approachText_isValueChar
  | format value => subst h; exact word (by cases value <;> decide)
  | steps value => subst h; exact word (by cases value <;> decide)
  | alternatives value => subst h; exact word (by cases value <;> decide)
  | overview value => subst h; exact word (by cases value <;> decide)
  | geometries value => subst h; exact word (by cases value <;> decide)
  | exclude classes =>
    exact Separated.forall_mem h (.inr (.inr (.inr (.inl rfl)))) fun _ _ hi c hc =>
      (hi.isValueChar c hc).1
  | generateHints value => subst h; exact word (by cases value <;> decide)

theorem key_name_isWordChar (key : Key) : key.name.toList.all isWordChar = true := by
  cases key <;> decide

theorem equals_not_mem_key_name (key : Key) : '=' ∉ key.name.toList := by
  cases key <;> decide

theorem PairText.isValueChar {pair : List Char} {s : Setting} (h : PairText pair s) :
    ∀ c ∈ pair, IsValueChar c := by
  obtain ⟨hvalue⟩ := h
  refine List.forall_mem_append.mpr ⟨fun c hc => ?_, ?_⟩
  · exact (isValueChar_of_isWordChar (key_name_isWordChar s.key) c hc).1
  · exact List.forall_mem_cons.mpr ⟨.inr (.inr (.inl rfl)), hvalue.isValueChar⟩

theorem PairText.equals_mem {pair : List Char} {s : Setting} (h : PairText pair s) : '=' ∈ pair := by
  cases h
  simp

theorem ampersand_not_mem_of_pairText {pair : List Char} {s : Setting} (h : PairText pair s) :
    '&' ∉ pair :=
  fun hc => (h.isValueChar _ hc).ne (.inl rfl) rfl

/-! ## Setting a parameter -/

/-- A text of a value is read by the reader of its key. -/
theorem set?_of_valueText {s : Setting} {value : List Char} (p : Parameters)
    (h : s.ValueText value) : s.key.set? value p = some (s.put p) := by
  cases s with
  | hints entries => simp [Setting.key, Key.set?, Setting.put, slots?_hint?_eq_some_iff.mpr h]
  | bearings entries =>
    simp [Setting.key, Key.set?, Setting.put, slots?_bearing?_eq_some_iff.mpr h]
  | radiuses entries =>
    simp [Setting.key, Key.set?, Setting.put, slots?_radius?_eq_some_iff.mpr h]
  | approaches entries =>
    simp [Setting.key, Key.set?, Setting.put, slots?_approach_eq_some_iff.mpr h]
  | format value =>
    have hread := outputFormat_ofKeyword?_eq_some_iff.mpr (ofList_eq_iff.mpr h)
    simp [Setting.key, Key.set?, Setting.put, hread]
  | steps value => simp [Setting.key, Key.set?, Setting.put, flag?_eq_some_iff.mpr h]
  | alternatives value => simp [Setting.key, Key.set?, Setting.put, flag?_eq_some_iff.mpr h]
  | overview value =>
    have hread := overview_ofKeyword?_eq_some_iff.mpr (ofList_eq_iff.mpr h)
    simp [Setting.key, Key.set?, Setting.put, hread]
  | geometries value =>
    have hread := geometries_ofKeyword?_eq_some_iff.mpr (ofList_eq_iff.mpr h)
    simp [Setting.key, Key.set?, Setting.put, hread]
  | exclude classes => simp [Setting.key, Key.set?, Setting.put, roadClasses?_eq_some_iff.mpr h]
  | generateHints value => simp [Setting.key, Key.set?, Setting.put, flag?_eq_some_iff.mpr h]

/-- What the reader of a key takes is the text of a setting with that key. -/
theorem exists_setting_of_set? {key : Key} {value : List Char} {p q : Parameters}
    (h : key.set? value p = some q) :
    ∃ s : Setting, s.key = key ∧ s.ValueText value ∧ q = s.put p := by
  cases key with
  | coordinates => simp [Key.set?] at h
  | hints =>
    obtain ⟨entries, hv, rfl⟩ := Option.map_eq_some_iff.mp h
    exact ⟨.hints entries, rfl, slots?_hint?_eq_some_iff.mp hv, rfl⟩
  | bearings =>
    obtain ⟨entries, hv, rfl⟩ := Option.map_eq_some_iff.mp h
    exact ⟨.bearings entries, rfl, slots?_bearing?_eq_some_iff.mp hv, rfl⟩
  | radiuses =>
    obtain ⟨entries, hv, rfl⟩ := Option.map_eq_some_iff.mp h
    exact ⟨.radiuses entries, rfl, slots?_radius?_eq_some_iff.mp hv, rfl⟩
  | approaches =>
    obtain ⟨entries, hv, rfl⟩ := Option.map_eq_some_iff.mp h
    exact ⟨.approaches entries, rfl, slots?_approach_eq_some_iff.mp hv, rfl⟩
  | format =>
    obtain ⟨word, hv, rfl⟩ := Option.map_eq_some_iff.mp h
    exact ⟨.format word, rfl,
      ofList_eq_iff.mp (outputFormat_ofKeyword?_eq_some_iff.mp hv), rfl⟩
  | steps =>
    obtain ⟨word, hv, rfl⟩ := Option.map_eq_some_iff.mp h
    exact ⟨.steps word, rfl, flag?_eq_some_iff.mp hv, rfl⟩
  | alternatives =>
    obtain ⟨word, hv, rfl⟩ := Option.map_eq_some_iff.mp h
    exact ⟨.alternatives word, rfl, flag?_eq_some_iff.mp hv, rfl⟩
  | overview =>
    obtain ⟨word, hv, rfl⟩ := Option.map_eq_some_iff.mp h
    exact ⟨.overview word, rfl, ofList_eq_iff.mp (overview_ofKeyword?_eq_some_iff.mp hv), rfl⟩
  | geometries =>
    obtain ⟨word, hv, rfl⟩ := Option.map_eq_some_iff.mp h
    exact ⟨.geometries word, rfl,
      ofList_eq_iff.mp (geometries_ofKeyword?_eq_some_iff.mp hv), rfl⟩
  | exclude =>
    obtain ⟨classes, hv, rfl⟩ := Option.map_eq_some_iff.mp h
    exact ⟨.exclude classes, rfl, roadClasses?_eq_some_iff.mp hv, rfl⟩
  | generateHints =>
    obtain ⟨word, hv, rfl⟩ := Option.map_eq_some_iff.mp h
    exact ⟨.generateHints word, rfl, flag?_eq_some_iff.mp hv, rfl⟩

theorem set?_eq_some_iff {key : Key} {value : List Char} {p q : Parameters} :
    key.set? value p = some q ↔ ∃ s : Setting, s.key = key ∧ s.ValueText value ∧ q = s.put p := by
  constructor
  · exact exists_setting_of_set?
  · intro ⟨s, hkey, hv, hq⟩
    rw [← hkey, hq]
    exact set?_of_valueText p hv

/-! ## Reading a pair -/

theorem ofName?_name (key : Key) : Key.ofName? key.name.toList = some key := by
  cases key <;> decide

theorem ofName?_eq_some_iff {name : List Char} {key : Key} :
    Key.ofName? name = some key ↔ name = key.name.toList := by
  constructor
  · intro h
    have := List.find?_some h
    simpa using (of_decide_eq_true this).symm
  · intro h
    rw [h, ofName?_name]

theorem setting_key_ne_coordinates (s : Setting) : s.key ≠ .coordinates := by
  cases s <;> simp [Setting.key]

/-- The keys that the reader has seen are the coordinates and the keys given. -/
def Seen (given seen : List Key) : Prop := ∀ key, key ∈ seen ↔ key = .coordinates ∨ key ∈ given

theorem readPair_eq_ok_iff {given seen : List Key} (hseen : Seen given seen) {p q : Parameters}
    {pair : List Char} {key : Key} :
    readPair seen p pair = .ok (key, q) ↔
      ∃ s : Setting, PairText pair s ∧ s.key = key ∧ s.key ∉ given ∧ q = s.put p := by
  constructor
  · intro h
    unfold readPair at h
    split at h
    · cases h
    · next name value hcut =>
      obtain ⟨hpair, -⟩ := cut_eq_some_iff.mp hcut
      split at h
      · cases h
      · next found hname =>
        split at h
        · cases h
        · next hnew =>
          split at h
          · cases h
          · next q' hset =>
            cases h
            obtain ⟨s, hkey, hv, hq⟩ := set?_eq_some_iff.mp hset
            have hgiven : s.key ∉ given := fun hg =>
              hnew ((hseen key).mpr (.inr (hkey ▸ hg)))
            rw [ofName?_eq_some_iff.mp hname, ← hkey] at hpair
            exact ⟨s, hpair ▸ .intro hv, hkey, hgiven, hq⟩
  · intro ⟨s, hpair, hkey, hgiven, hq⟩
    subst hkey
    obtain ⟨hv⟩ := hpair
    next value =>
    have hcut : cut '=' (s.key.name.toList ++ '=' :: value) = some (s.key.name.toList, value) :=
      cut_eq_some_iff.mpr ⟨rfl, equals_not_mem_key_name s.key⟩
    have hnew : s.key ∉ seen := fun h =>
      ((hseen s.key).mp h).elim (setting_key_ne_coordinates s) hgiven
    simp only [readPair, hcut, ofName?_name, hnew, if_false, set?_of_valueText p hv, hq]

/-- A value that no setting of the key has is refused by the reader of the key. -/
theorem set?_eq_none_iff {key : Key} {value : List Char} {p : Parameters} :
    key.set? value p = none ↔ ∀ s : Setting, s.key = key → ¬ s.ValueText value := by
  constructor
  · intro h s hkey hv
    rw [← hkey, set?_of_valueText p hv] at h
    cases h
  · intro h
    cases hset : key.set? value p with
    | none => rfl
    | some q =>
      obtain ⟨s, hkey, hv, -⟩ := exists_setting_of_set? hset
      exact absurd hv (h s hkey)

theorem rejected_of_readPair {given seen : List Key} (hseen : Seen given seen) {p : Parameters}
    {pair : List Char} {e : PairError} (h : readPair seen p pair = .error e) :
    Rejected given pair e := by
  unfold readPair at h
  split at h
  · next hcut =>
    cases h
    exact .noEquals (cut_eq_none_iff.mp hcut)
  · next name value hcut =>
    obtain ⟨hpair, hname⟩ := cut_eq_some_iff.mp hcut
    rw [hpair]
    split at h
    · next hnone =>
      cases h
      refine .unknownKey hname fun key hkey => ?_
      rw [hkey, ofName?_name] at hnone
      cases hnone
    · next key hkey =>
      rw [ofName?_eq_some_iff.mp hkey]
      split at h
      · next hmem =>
        cases h
        exact .givenBefore ((hseen key).mp hmem)
      · next hnew =>
        rw [hseen, not_or] at hnew
        split at h
        · next hset =>
          cases h
          exact .malformedValue hnew.1 hnew.2 (set?_eq_none_iff.mp hset)
        · cases h

theorem readPair_of_rejected {given seen : List Key} (hseen : Seen given seen) (p : Parameters)
    {pair : List Char} {e : PairError} (h : Rejected given pair e) :
    readPair seen p pair = .error e := by
  have cutAt {name value : List Char} (h : '=' ∉ name) :
      cut '=' (name ++ '=' :: value) = some (name, value) := cut_eq_some_iff.mpr ⟨rfl, h⟩
  cases h with
  | noEquals h => simp only [readPair, cut_eq_none_iff.mpr h]
  | unknownKey hname h =>
    next name value =>
    have hnone : Key.ofName? name = none := by
      cases hkey : Key.ofName? name with
      | none => rfl
      | some key => exact absurd (ofName?_eq_some_iff.mp hkey) (h key)
    simp only [readPair, cutAt hname, hnone]
  | givenBefore h =>
    next key value =>
    simp only [readPair, cutAt (equals_not_mem_key_name key), ofName?_name, (hseen key).mpr h,
      if_true]
  | malformedValue hcoordinates hgiven h =>
    next key value =>
    have hnew : key ∉ seen := fun hmem => ((hseen key).mp hmem).elim hcoordinates hgiven
    simp only [readPair, cutAt (equals_not_mem_key_name key), ofName?_name, hnew, if_false,
      set?_eq_none_iff.mpr h]

theorem readPair_eq_error_iff {given seen : List Key} (hseen : Seen given seen) {p : Parameters}
    {pair : List Char} {e : PairError} :
    readPair seen p pair = .error e ↔ Rejected given pair e :=
  ⟨rejected_of_readPair hseen, readPair_of_rejected hseen p⟩

end RoutingGateway.Query
