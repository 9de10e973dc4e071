/-
The readers of single values against the grammar of values.

Each reader answers exactly on the texts of its relation, with the value the
relation tells (`coordinates?_eq_some_iff`, `slots?_eq_some_iff`, …). For a
list this needs that no item contains the separator of the list, so each kind of
item comes with a lemma on its characters.

All values are written in the characters of `IsValueChar`. No text of a
value holds an ampersand, a question mark or a slash, which is why a query can be
cut at those without looking at what stands between them.
-/
import RoutingGateway.Proofs.Query.Grammar

namespace RoutingGateway.Query

open RoutingGateway.Decimal RoutingGateway.Text

/-! ## Characters -/

/-- The characters of values. -/
def IsValueChar (c : Char) : Prop :=
  IsNumeralChar c ∨ c = '_' ∨ c = '=' ∨ c = ',' ∨ c = ';'

/-- A character that separates parts of a query or of a path is in no value. -/
theorem IsValueChar.ne {c sep : Char} (h : IsValueChar c)
    (hsep : sep = '&' ∨ sep = '?' ∨ sep = '/') : c ≠ sep := by
  intro hc
  subst hc
  rcases hsep with rfl | rfl | rfl <;> exact absurd h (by unfold IsValueChar IsNumeralChar; decide)

/-! ## Numbers and coordinates -/

theorem finite?_eq_some_iff {text : List Char} {x : Float} :
    finite? text = some x ↔ FiniteText text x := by
  simp [finite?, FiniteText]

theorem FiniteText.isNumeralChar {text : List Char} {x : Float} (h : FiniteText text x) :
    ∀ c ∈ text, IsNumeralChar c := by
  obtain ⟨numeral, hn, -⟩ := Option.map_eq_some_iff.mp h.1
  exact isNumeralChar_of_read? hn

theorem coordinate?_eq_some_iff {text : List Char} {c : Coordinate} :
    coordinate? text = some c ↔ CoordinateText text c := by
  constructor
  · intro h
    unfold coordinate? at h
    split at h
    · simp at h
    · next lon lat hcut =>
      obtain ⟨rfl, -⟩ := cut_eq_some_iff.mp hcut
      split at h
      · next x y hx hy =>
        simp only [Option.ite_none_right_eq_some, Option.some.injEq, Coordinate.isValid,
          Bool.and_eq_true, decide_eq_true_eq] at h
        obtain ⟨⟨⟨⟨west, east⟩, south⟩, north⟩, rfl⟩ := h
        exact .intro (finite?_eq_some_iff.mp hx) (finite?_eq_some_iff.mp hy) west east south north
      · simp at h
  · intro h
    cases h with
    | @intro lon lat _ hlon hlat west east south north =>
      have hcut : cut ',' (lon ++ ',' :: lat) = some (lon, lat) :=
        cut_eq_some_iff.mpr ⟨rfl, fun h => (hlon.isNumeralChar _ h).ne (.inl rfl) rfl⟩
      simp [coordinate?, hcut, finite?_eq_some_iff.mpr hlon, finite?_eq_some_iff.mpr hlat,
        Coordinate.isValid, west, east, south, north]

/-- The characters of a coordinate are those of its numbers and the comma. -/
theorem CoordinateText.isNumeralChar {text : List Char} {c : Coordinate}
    (h : CoordinateText text c) : ∀ d ∈ text, IsNumeralChar d ∨ d = ',' := by
  obtain ⟨hlon, hlat, -⟩ := h
  intro d hd
  rcases List.mem_append.mp hd with hd | hd
  · exact .inl (hlon.isNumeralChar d hd)
  · rcases List.mem_cons.mp hd with rfl | hd
    · exact .inr rfl
    · exact .inl (hlat.isNumeralChar d hd)

theorem semicolon_not_mem_of_coordinateText {text : List Char} {c : Coordinate}
    (h : CoordinateText text c) : ';' ∉ text := fun hmem =>
  (h.isNumeralChar _ hmem).elim (fun hd => hd.ne (.inr (.inl rfl)) rfl) (by decide)

theorem coordinates?_eq_some_iff {text : List Char} {cs : List Coordinate} :
    coordinates? text = some cs ↔ CoordinatesText text cs := by
  rw [coordinates?, mapM_eq_some_iff, CoordinatesText,
    separated_iff_splitOn fun _ _ => semicolon_not_mem_of_coordinateText]
  simp only [coordinate?_eq_some_iff]

/-- A list of coordinates has no equals sign besides its value characters. -/
theorem CoordinatesText.isValueChar {text : List Char} {cs : List Coordinate}
    (h : CoordinatesText text cs) : ∀ c ∈ text, IsValueChar c ∧ c ≠ '=' := by
  refine h.forall_mem ⟨.inr (.inr (.inr (.inr rfl))), by decide⟩ fun piece value hi c hc => ?_
  rcases hi.isNumeralChar c hc with hn | rfl
  · exact ⟨.inl hn, hn.ne (.inr (.inr rfl))⟩
  · exact ⟨.inr (.inr (.inr (.inl rfl))), by decide⟩

/-- A list of coordinates holds a comma, and so is not empty. -/
theorem CoordinatesText.ne_nil {text : List Char} {cs : List Coordinate}
    (h : CoordinatesText text cs) : text ≠ [] := by
  intro hnil
  have hread := coordinates?_eq_some_iff.mpr h
  rw [hnil] at hread
  simp [coordinates?, coordinate?, cut] at hread

/-! ## Items of other lists -/

theorem hint?_eq_some_iff {text : List Char} {hint : String} (hne : text ≠ []) :
    hint? text = some hint ↔ HintText text hint := by
  simp only [hint?, HintText, isHintChar, Option.ite_none_right_eq_some, List.all_eq_true,
    Bool.or_eq_true, decide_eq_true_eq, Option.some.injEq, eq_comm (a := String.ofList text)]
  constructor
  · intro ⟨hall, htext⟩
    refine ⟨hne, fun c hc => ?_, htext⟩
    have hchar := hall c hc
    tauto
  · intro ⟨_, hall, htext⟩
    refine ⟨fun c hc => ?_, htext⟩
    have hchar := hall c hc
    tauto

theorem wholeUpTo?_eq_some_iff {limit n : Nat} {text : List Char} :
    wholeUpTo? limit text = some n ↔ WholeText text n ∧ n ≤ limit := by
  rw [← readWhole_eq_ok_iff, wholeUpTo?]
  cases readWhole limit text <;> simp

theorem bearing?_eq_some_iff {text : List Char} {b : Bearing} :
    bearing? text = some b ↔ BearingText text b := by
  constructor
  · intro h
    unfold bearing? at h
    split at h
    · simp at h
    · next direction deviation hcut =>
      obtain ⟨rfl, -⟩ := cut_eq_some_iff.mp hcut
      split at h
      · next x y hx hy =>
        obtain rfl := Option.some.inj h
        have hx := wholeUpTo?_eq_some_iff.mp hx
        have hy := wholeUpTo?_eq_some_iff.mp hy
        exact .intro hx.1 hy.1 hx.2 hy.2
      · simp at h
  · intro h
    cases h with
    | @intro direction deviation _ hx hy hle hle' =>
      have hcut : cut ',' (direction ++ ',' :: deviation) = some (direction, deviation) :=
        cut_eq_some_iff.mpr ⟨rfl, fun h => (hx.isNumeralChar _ h).ne (.inl rfl) rfl⟩
      simp [bearing?, hcut, wholeUpTo?_eq_some_iff.mpr ⟨hx, hle⟩,
        wholeUpTo?_eq_some_iff.mpr ⟨hy, hle'⟩]

theorem radius?_eq_some_iff {text : List Char} {r : Radius} :
    radius? text = some r ↔ RadiusText text r := by
  unfold radius?
  split
  · next hword =>
    subst hword
    constructor
    · intro h
      obtain rfl := Option.some.inj h
      exact .unlimited
    · intro h
      cases h with
      | unlimited => rfl
      | meters h _ =>
        -- the word is no numeral
        obtain ⟨numeral, hn, -⟩ := Option.map_eq_some_iff.mp h.1
        have hnone : Numeral.read? "unlimited".toList = none := by decide
        cases hnone.symm.trans hn
  · next hword =>
    constructor
    · intro h
      split at h
      · next x hx =>
        obtain ⟨hx', h⟩ := Option.ite_none_right_eq_some.mp h
        obtain rfl := Option.some.inj h
        exact .meters (finite?_eq_some_iff.mp hx) hx'
      · simp at h
    · intro h
      cases h with
      | unlimited => exact absurd rfl hword
      | meters h hx => simp [finite?_eq_some_iff.mpr h, hx]

theorem roadClass?_eq_some_iff {text : List Char} {name : String} :
    roadClass? text = some name ↔ ClassText text name := by
  simp only [roadClass?, ClassText, isClassChar, Option.ite_none_right_eq_some, List.all_eq_true,
    Bool.or_eq_true, decide_eq_true_eq, Option.some.injEq, and_assoc,
    eq_comm (a := String.ofList text)]

theorem flag?_eq_some_iff {text : List Char} {value : Bool} :
    flag? text = some value ↔ text = (flagWord value).toList := by
  unfold flag?
  split
  · next h => subst h; cases value <;> simp [flagWord]
  · split
    · next h => subst h; cases value <;> simp_all [flagWord]
    · cases value <;> simp_all [flagWord]

/-! ## Keywords -/

theorem ofList_eq_iff {text : List Char} {word : String} :
    String.ofList text = word ↔ text = word.toList := by
  constructor
  · intro h
    rw [← h, String.toList_ofList]
  · intro h
    rw [h, String.ofList_toList]

theorem approach_ofKeyword?_eq_some_iff {word : String} {a : Approach} :
    Approach.ofKeyword? word = some a ↔ word = a.keyword := by
  unfold Approach.ofKeyword?
  split <;> cases a <;> simp_all [Approach.keyword]

theorem outputFormat_ofKeyword?_eq_some_iff {word : String} {f : OutputFormat} :
    OutputFormat.ofKeyword? word = some f ↔ word = f.keyword := by
  unfold OutputFormat.ofKeyword?
  split <;> cases f <;> simp_all [OutputFormat.keyword]

theorem overview_ofKeyword?_eq_some_iff {word : String} {o : Overview} :
    Overview.ofKeyword? word = some o ↔ word = o.keyword := by
  unfold Overview.ofKeyword?
  split <;> cases o <;> simp_all [Overview.keyword]

theorem geometries_ofKeyword?_eq_some_iff {word : String} {g : Geometries} :
    Geometries.ofKeyword? word = some g ↔ word = g.keyword := by
  unfold Geometries.ofKeyword?
  split <;> cases g <;> simp_all [Geometries.keyword]

/-! ## Lists -/

section Lists

variable {α : Type} {item : List Char → Option α} {Item : List Char → α → Prop}

/-- An entry is read by the reader of its items, which is not asked about an empty
text. -/
theorem slot?_eq_some_iff (hnil : ∀ value, ¬ Item [] value)
    (hitem : ∀ text value, text ≠ [] → (item text = some value ↔ Item text value))
    {text : List Char} {entry : Option α} :
    slot? item text = some entry ↔ EntryText Item text entry := by
  unfold slot?
  split
  · next h =>
    subst h
    constructor
    · intro h
      obtain rfl := Option.some.inj h
      exact .left
    · intro h
      cases h with
      | left => rfl
      | given h => exact absurd h (hnil _)
  · next h =>
    constructor
    · intro hread
      obtain ⟨value, hv, rfl⟩ := Option.map_eq_some_iff.mp hread
      exact .given ((hitem text value h).mp hv)
    · intro hentry
      cases hentry with
      | left => exact absurd rfl h
      | given hv => simp [(hitem text _ h).mpr hv]

theorem slots?_eq_some_iff (hnil : ∀ value, ¬ Item [] value)
    (hitem : ∀ text value, text ≠ [] → (item text = some value ↔ Item text value))
    (hsep : ∀ text value, Item text value → ';' ∉ text)
    {text : List Char} {entries : List (Option α)} :
    slots? item text = some entries ↔ EntriesText Item text entries := by
  have hentry : ∀ text entry, EntryText Item text entry → ';' ∉ text := by
    intro text entry h
    cases h with
    | left => simp
    | given h => exact hsep _ _ h
  rw [slots?, mapM_eq_some_iff, EntriesText, separated_iff_splitOn hentry]
  simp only [slot?_eq_some_iff hnil hitem]

/-- The characters of entries are those of their items and the semicolon. -/
theorem EntriesText.forall_mem {P : Char → Prop} {text : List Char} {entries : List (Option α)}
    (h : EntriesText Item text entries) (hsep : P ';')
    (hitem : ∀ text value, Item text value → ∀ c ∈ text, P c) : ∀ c ∈ text, P c := by
  refine Separated.forall_mem h hsep fun piece entry hentry => ?_
  rcases hentry with _ | hi
  · simp
  · exact hitem _ _ hi

end Lists

/-! ## Characters of items and entries -/

theorem HintText.isValueChar {text : List Char} {hint : String} (h : HintText text hint) :
    ∀ c ∈ text, IsValueChar c ∧ c ≠ ';' := by
  intro c hc
  rcases h.2.1 c hc with h | rfl | rfl | rfl
  · have hn : IsNumeralChar c := .inl h
    exact ⟨.inl hn, hn.ne (.inr (.inl rfl))⟩
  · exact ⟨.inr (.inl rfl), by decide⟩
  · exact ⟨.inr (.inr (.inl rfl)), by decide⟩
  · exact ⟨.inl (.inr (.inr (.inl rfl))), by decide⟩

theorem isValueChar_of_isNumeralChar {text : List Char} (h : ∀ c ∈ text, IsNumeralChar c) :
    ∀ c ∈ text, IsValueChar c ∧ c ≠ ';' :=
  fun c hc => ⟨.inl (h c hc), (h c hc).ne (.inr (.inl rfl))⟩

theorem BearingText.isValueChar {text : List Char} {b : Bearing} (h : BearingText text b) :
    ∀ c ∈ text, IsValueChar c ∧ c ≠ ';' := by
  obtain ⟨hx, hy, -, -⟩ := h
  refine List.forall_mem_append.mpr ⟨isValueChar_of_isNumeralChar hx.isNumeralChar, ?_⟩
  exact List.forall_mem_cons.mpr
    ⟨⟨.inr (.inr (.inr (.inl rfl))), by decide⟩, isValueChar_of_isNumeralChar hy.isNumeralChar⟩

/-- Letters, digits and underscores, the characters of keys and keywords. -/
def isWordChar (c : Char) : Bool := c.isAlphanum || c = '_'

theorem isValueChar_of_isWordChar {text : List Char} (h : text.all isWordChar = true) :
    ∀ c ∈ text, IsValueChar c ∧ c ≠ ';' := by
  intro c hc
  have hw := List.all_eq_true.mp h c hc
  simp only [isWordChar, Bool.or_eq_true, decide_eq_true_eq] at hw
  rcases hw with h | rfl
  · have hn : IsNumeralChar c := .inl h
    exact ⟨.inl hn, hn.ne (.inr (.inl rfl))⟩
  · exact ⟨.inr (.inl rfl), by decide⟩

theorem RadiusText.isValueChar {text : List Char} {r : Radius} (h : RadiusText text r) :
    ∀ c ∈ text, IsValueChar c ∧ c ≠ ';' := by
  rcases h with _ | ⟨h, -⟩
  · exact isValueChar_of_isWordChar (by decide)
  · exact isValueChar_of_isNumeralChar h.isNumeralChar

theorem ClassText.isValueChar {text : List Char} {name : String} (h : ClassText text name) :
    ∀ c ∈ text, IsValueChar c ∧ c ≠ ',' := by
  intro c hc
  rcases h.2.1 c hc with h | rfl
  · have hn : IsNumeralChar c := .inl (isAlphanum_of_isAlpha (Bool.or_eq_true_iff.mpr (.inr h)))
    exact ⟨.inl hn, hn.ne (.inl rfl)⟩
  · exact ⟨.inr (.inl rfl), by decide⟩

theorem approachText_isValueChar {text : List Char} {a : Approach}
    (h : text = a.keyword.toList) : ∀ c ∈ text, IsValueChar c ∧ c ≠ ';' := by
  subst h
  exact isValueChar_of_isWordChar (by cases a <;> decide)

/-- The characters of entries, when those of their items are known. -/
theorem EntriesText.isValueChar {α : Type} {Item : List Char → α → Prop} {text : List Char}
    {entries : List (Option α)} (h : EntriesText Item text entries)
    (hitem : ∀ text value, Item text value → ∀ c ∈ text, IsValueChar c ∧ c ≠ ';') :
    ∀ c ∈ text, IsValueChar c :=
  h.forall_mem (.inr (.inr (.inr (.inr rfl)))) fun _ _ hi c hc => (hitem _ _ hi c hc).1

/-! ## The readers of the four lists -/

theorem slots?_hint?_eq_some_iff {text : List Char} {hints : List (Option String)} :
    slots? hint? text = some hints ↔ EntriesText HintText text hints :=
  slots?_eq_some_iff (fun _ h => h.1 rfl) (fun _ _ => hint?_eq_some_iff)
    fun _ _ h hc => (h.isValueChar _ hc).2 rfl

theorem slots?_bearing?_eq_some_iff {text : List Char} {bearings : List (Option Bearing)} :
    slots? bearing? text = some bearings ↔ EntriesText BearingText text bearings := by
  refine slots?_eq_some_iff (fun b h => ?_) (fun _ _ _ => bearing?_eq_some_iff)
    fun _ _ h hc => (h.isValueChar _ hc).2 rfl
  have hread := bearing?_eq_some_iff.mpr h
  simp [bearing?, cut] at hread

theorem slots?_radius?_eq_some_iff {text : List Char} {radiuses : List (Option Radius)} :
    slots? radius? text = some radiuses ↔ EntriesText RadiusText text radiuses := by
  refine slots?_eq_some_iff (fun r h => ?_) (fun _ _ _ => radius?_eq_some_iff)
    fun _ _ h hc => (h.isValueChar _ hc).2 rfl
  have hread := radius?_eq_some_iff.mpr h
  have hnone : Numeral.read? [] = none := by decide
  simp [radius?, finite?, readFloat?, hnone] at hread

theorem slots?_approach_eq_some_iff {text : List Char} {approaches : List (Option Approach)} :
    slots? (fun word => Approach.ofKeyword? (String.ofList word)) text = some approaches ↔
      EntriesText (fun word a => word = a.keyword.toList) text approaches := by
  refine slots?_eq_some_iff (fun a h => ?_) (fun _ _ _ => ?_)
    fun _ _ h hc => (approachText_isValueChar h _ hc).2 rfl
  · cases a <;> simp [Approach.keyword] at h
  · rw [approach_ofKeyword?_eq_some_iff, ofList_eq_iff]

theorem roadClasses?_eq_some_iff {text : List Char} {classes : List String} :
    roadClasses? text = some classes ↔ Separated ',' ClassText text classes := by
  rw [roadClasses?, mapM_eq_some_iff,
    separated_iff_splitOn fun _ _ h hc => (ClassText.isValueChar h _ hc).2 rfl]
  simp only [roadClass?_eq_some_iff]

end RoutingGateway.Query
