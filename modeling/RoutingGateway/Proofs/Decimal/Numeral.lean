/-
Which texts read as numbers.

For whole numbers the answer is complete: `readWhole limit` takes a text
exactly when it is digits with an optional plus sign and what they denote is
within the limit (`readWhole_eq_ok_iff`). Reading stops at the first digit
with which the number passes the limit, while the limit is about the whole
number; the two agree because further digits never make a number smaller
(`le_readFrom`).

Of decimal numerals the callers need one fact, that the separators inside values
are not among their characters (`isNumeralChar_of_read?`, `IsNumeralChar.ne`).
-/
import RoutingGateway.Decimal.Binary64

namespace RoutingGateway.Decimal

/-! ## Characters -/

/-- The characters of decimal numerals, and more: the letters of the words and of
the exponent are not told from others. -/
def IsNumeralChar (c : Char) : Prop :=
  c.isAlphanum = true ∨ c = '+' ∨ c = '-' ∨ c = '.'

theorem isAlphanum_of_isAlpha {c : Char} (h : c.isAlpha = true) : c.isAlphanum = true := by
  simp [Char.isAlphanum, h]

theorem isNumeralChar_of_isDigit {c : Char} (h : c.isDigit = true) : IsNumeralChar c :=
  .inl (by simp [Char.isAlphanum, h])

/-- No separator inside a value is a character of a numeral. -/
theorem IsNumeralChar.ne {c sep : Char} (h : IsNumeralChar c)
    (hsep : sep = ',' ∨ sep = ';' ∨ sep = '=') : c ≠ sep := by
  intro hc
  subst hc
  rcases hsep with rfl | rfl | rfl <;> exact absurd h (by unfold IsNumeralChar; decide)

/-! ## Whole numbers -/

/-- The text is one or more digits with an optional plus sign, and `n` is what
they denote. -/
inductive WholeText : List Char → Nat → Prop
  | unsigned {digits : List Char} : digits ≠ [] → (∀ c ∈ digits, c.isDigit = true) →
      WholeText digits (ofDigits digits)
  | signed {digits : List Char} : digits ≠ [] → (∀ c ∈ digits, c.isDigit = true) →
      WholeText ('+' :: digits) (ofDigits digits)

/-- What digits denote on top of a number that stands in front of them. -/
def readFrom (value : Nat) (digits : List Char) : Nat :=
  digits.foldl (fun n c => 10 * n + (c.toNat - '0'.toNat)) value

theorem le_readFrom (value : Nat) (digits : List Char) : value ≤ readFrom value digits := by
  induction digits generalizing value with
  | nil => exact Nat.le_refl value
  | cons c rest ih =>
    calc value ≤ 10 * value + (c.toNat - '0'.toNat) := by omega
      _ ≤ readFrom value (c :: rest) := ih _

theorem readDigits_eq_ok_iff {limit value n : Nat} {digits : List Char} (h : value ≤ limit) :
    readDigits limit value digits = .ok n ↔
      (∀ c ∈ digits, c.isDigit = true) ∧ readFrom value digits = n ∧ n ≤ limit := by
  induction digits generalizing value with
  | nil =>
    simp only [readDigits, readFrom, List.foldl_nil, Except.ok.injEq, List.not_mem_nil]
    exact ⟨fun e => ⟨by simp, e, e ▸ h⟩, fun e => e.2.1⟩
  | cons c rest ih =>
    rw [readDigits]
    by_cases hc : c.isDigit = true
    · by_cases hn : 10 * value + (c.toNat - '0'.toNat) ≤ limit
      · simp only [hc, hn, if_true, ih hn, List.forall_mem_cons, true_and]
        rfl
      · simp only [hc, hn, if_true, if_false, reduceCtorEq, false_iff, not_and]
        intro _ hread hle
        rw [← hread] at hle
        exact hn (Nat.le_trans (le_readFrom _ rest) hle)
    · simp only [hc, if_false, reduceCtorEq, false_iff]
      exact fun h => hc (h.1 c (by simp))

/-- A text is read as a whole number exactly when it is one within the limit. -/
theorem readWhole_eq_ok_iff {limit n : Nat} {text : List Char} :
    readWhole limit text = .ok n ↔ WholeText text n ∧ n ≤ limit := by
  have digitsOnly (digits : List Char) : readDigits limit 0 digits = .ok n ↔
      (∀ c ∈ digits, c.isDigit = true) ∧ ofDigits digits = n ∧ n ≤ limit :=
    readDigits_eq_ok_iff (Nat.zero_le limit)
  unfold readWhole
  split
  · simp only [reduceCtorEq, false_iff, not_and]
    intro h
    cases h with
    | unsigned hne _ => exact absurd rfl hne
  · simp only [reduceCtorEq, false_iff, not_and]
    intro h
    cases h with
    | unsigned _ h => exact absurd (h '+' (by simp)) (by decide)
    | signed hne _ => exact absurd rfl hne
  · next digits hne =>
    rw [digitsOnly]
    constructor
    · intro ⟨h, hn, hle⟩
      exact ⟨hn ▸ .signed (by simpa using hne) h, hle⟩
    · intro ⟨htext, hle⟩
      cases htext with
      | unsigned _ h => exact absurd (h '+' (by simp)) (by decide)
      | signed _ h => exact ⟨h, rfl, hle⟩
  · next hne hplus hsign =>
    rw [digitsOnly]
    constructor
    · intro ⟨h, hn, hle⟩
      exact ⟨hn ▸ .unsigned hne h, hle⟩
    · intro ⟨htext, hle⟩
      cases htext with
      | unsigned _ h => exact ⟨h, rfl, hle⟩
      | @signed digits _ _ => exact absurd rfl (hsign digits)

theorem WholeText.isNumeralChar {text : List Char} {n : Nat} (h : WholeText text n) :
    ∀ c ∈ text, IsNumeralChar c := by
  rcases h with ⟨-, h⟩ | ⟨-, h⟩
  · exact fun c hc => isNumeralChar_of_isDigit (h c hc)
  · exact List.forall_mem_cons.mpr ⟨.inr (.inl rfl), fun c hc => isNumeralChar_of_isDigit (h c hc)⟩

/-! ## Decimal numerals -/

theorem isAlphanum_of_isAlphanum_toLower {c : Char} (h : c.toLower.isAlphanum = true) :
    c.isAlphanum = true := by
  by_cases hc : c.isUpper = true
  · exact isAlphanum_of_isAlpha (Bool.or_eq_true_iff.mpr (.inl hc))
  · have : c.toLower = c := by
      unfold Char.toLower
      exact dif_neg fun h => hc (decide_eq_true h)
    rwa [this] at h

theorem isNumeralChar_of_unsign {text : List Char}
    (h : ∀ c ∈ (unsign text).2, IsNumeralChar c) : ∀ c ∈ text, IsNumeralChar c := by
  unfold unsign at h
  split at h
  · exact List.forall_mem_cons.mpr ⟨.inr (.inl rfl), h⟩
  · exact List.forall_mem_cons.mpr ⟨.inr (.inr (.inl rfl)), h⟩
  · exact h

theorem isNumeralChar_of_readExponent? {text : List Char} {e : Int}
    (h : readExponent? text = some e) : ∀ c ∈ text, IsNumeralChar c := by
  cases text with
  | nil => simp
  | cons c rest =>
    rw [readExponent?] at h
    split at h
    · next hc =>
      have hdigits : ∀ d ∈ (unsign rest).2, d.isDigit = true := by
        cases hu : unsign rest with
        | mk negative digits =>
          simp only [hu, Option.ite_none_right_eq_some] at h
          exact List.all_eq_true.mp h.1.2
      refine List.forall_mem_cons.mpr ⟨?_, isNumeralChar_of_unsign fun d hd => ?_⟩
      · rcases hc with rfl | rfl <;> exact .inl (by decide)
      · exact isNumeralChar_of_isDigit (hdigits d hd)
    · simp at h

theorem isNumeralChar_of_takeWhile (text : List Char) :
    ∀ c ∈ text.takeWhile Char.isDigit, IsNumeralChar c :=
  fun c hc => isNumeralChar_of_isDigit (List.all_eq_true.mp List.all_takeWhile c hc)

theorem isNumeralChar_of_splitFraction {text : List Char}
    (h : ∀ c ∈ (splitFraction text).2, IsNumeralChar c) : ∀ c ∈ text, IsNumeralChar c := by
  unfold splitFraction at h
  split at h
  · next rest =>
    refine List.forall_mem_cons.mpr ⟨.inr (.inr (.inr rfl)), fun c hc => ?_⟩
    rw [← List.takeWhile_append_dropWhile (p := Char.isDigit) (l := rest), List.mem_append] at hc
    exact hc.elim (isNumeralChar_of_takeWhile rest c) (h c)
  · exact h

theorem isNumeralChar_of_readFinite? {text : List Char} {m : Magnitude}
    (h : readFinite? text = some m) : ∀ c ∈ text, IsNumeralChar c := by
  cases hs : splitFraction (text.dropWhile Char.isDigit) with
  | mk fraction rest =>
    simp only [readFinite?, hs, Option.ite_none_left_eq_some, Option.map_eq_some_iff] at h
    obtain ⟨-, e, he, -⟩ := h
    have hrest : ∀ c ∈ text.dropWhile Char.isDigit, IsNumeralChar c :=
      isNumeralChar_of_splitFraction (by rw [hs]; exact isNumeralChar_of_readExponent? he)
    intro c hc
    rw [← List.takeWhile_append_dropWhile (p := Char.isDigit) (l := text), List.mem_append] at hc
    exact hc.elim (isNumeralChar_of_takeWhile text c) (hrest c)

theorem isNumeralChar_of_readWord? {text : List Char} {m : Magnitude}
    (h : readWord? text = some m) : ∀ c ∈ text, IsNumeralChar c := by
  have hword : (text.map Char.toLower).all Char.isAlphanum = true := by
    unfold readWord? at h
    split at h
    · next hw => rw [← String.toList_ofList (l := text.map Char.toLower), hw]; decide
    · next hw => rw [← String.toList_ofList (l := text.map Char.toLower), hw]; decide
    · next hw => rw [← String.toList_ofList (l := text.map Char.toLower), hw]; decide
    · simp at h
  intro c hc
  have := List.all_eq_true.mp hword _ (List.mem_map_of_mem hc)
  exact .inl (isAlphanum_of_isAlphanum_toLower this)

/-- A text that reads as a decimal numeral has no other characters. -/
theorem isNumeralChar_of_read? {text : List Char} {numeral : Numeral}
    (h : Numeral.read? text = some numeral) : ∀ c ∈ text, IsNumeralChar c := by
  obtain ⟨m, hm, -⟩ := Option.map_eq_some_iff.mp h
  apply isNumeralChar_of_unsign
  rcases Option.or_eq_some_iff.mp hm with hm | ⟨-, hm⟩
  · exact isNumeralChar_of_readFinite? hm
  · exact isNumeralChar_of_readWord? hm

end RoutingGateway.Decimal
