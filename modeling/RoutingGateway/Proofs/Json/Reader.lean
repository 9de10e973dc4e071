/-
What is written can be read.

The compact text of a value can be read back, whatever the strings in it are and however deep it
nests (`read?_render`). Escapes are undone character by character (`readChars_flatMap_writeChar`),
and an integer ends in front of the character behind it, which is none of a number.

Floating-point numbers are left out here: of those it is not the text alone that counts.
-/
import Mathlib.Data.List.TakeWhile
import Mathlib.Tactic.SplitIfs
import RoutingGateway.Json.Reader
import RoutingGateway.Proofs.Json.Writer

namespace RoutingGateway.Json

open Decimal

/-! ## Strings -/

/-- A control character is read off its four digits. -/
theorem exists_hexPadded {n : Nat} (h : n < 32) :
    ∃ a b c d, Text.hexPadded 4 n = [a, b, c, d] ∧ readUnit? a b c d = some n ∧
      unitChar? n = some (Char.ofNat n) := by
  have hall : ∀ n < 32, Text.hexPadded 4 n = ['0', '0', (n / 16).digitChar, (n % 16).digitChar] ∧
      readUnit? '0' '0' (n / 16).digitChar (n % 16).digitChar = some n ∧
      unitChar? n = some (Char.ofNat n) := by
    decide
  exact ⟨_, _, _, _, hall n h⟩

/-- A character is read off as it was written. -/
theorem readChars_writeChar_append (c : Char) (text : List Char) :
    readChars (writeChar c ++ text) =
      (readChars text).map fun (chars, left) => (c :: chars, left) := by
  have hletter (letter : Char) (hletter : letter ≠ 'u') (hescaped : escaped? letter = some c) :
      readChars ('\\' :: letter :: text) =
        (readChars text).map fun (chars, left) => (c :: chars, left) := by
    rw [readChars]
    · rw [hescaped]
      cases readChars text <;> rfl
    · intro a b x y rest h
      exact absurd h hletter
  unfold writeChar
  split_ifs with hquote hbackslash hb hf hn hr ht hcontrol
  · exact hletter '"' (by decide) (by rw [hquote]; rfl)
  · exact hletter '\\' (by decide) (by rw [hbackslash]; rfl)
  · exact hletter 'b' (by decide) (hb ▸ rfl)
  · exact hletter 'f' (by decide) (hf ▸ rfl)
  · exact hletter 'n' (by decide) (hn ▸ rfl)
  · exact hletter 'r' (by decide) (hr ▸ rfl)
  · exact hletter 't' (by decide) (ht ▸ rfl)
  · obtain ⟨a, b, x, y, hhex, hunit, hchar⟩ := exists_hexPadded hcontrol
    rw [hhex]
    simp only [List.cons_append, List.nil_append]
    rw [readChars, hunit]
    simp only [hchar, Char.ofNat_toNat]
    cases readChars text <;> rfl
  · rw [List.singleton_append, readChars]
    · rw [if_neg (not_or.mpr ⟨hcontrol, hbackslash⟩)]
      cases readChars text <;> rfl
    · exact hquote
    · exact fun _ _ _ _ _ h _ => hbackslash h
    · exact fun _ _ h _ => hbackslash h

theorem readChars_flatMap_writeChar (chars rest : List Char) :
    readChars (chars.flatMap writeChar ++ '"' :: rest) = some (chars, rest) := by
  induction chars with
  | nil => rw [List.flatMap_nil, List.nil_append, readChars]
  | cons c chars ih =>
    rw [List.flatMap_cons, List.append_assoc, readChars_writeChar_append, ih]
    rfl

/-! ## Integers -/

theorem isDigit_of_mem_toDigits {n : Nat} {c : Char} (h : c ∈ Nat.toDigits 10 n) :
    c.isDigit = true :=
  Nat.isDigit_of_mem_toDigits (by decide) (by decide) h

/-- No zero stands in front of a number but zero. -/
theorem exists_toDigits_eq_cons {n : Nat} (h : 0 < n) :
    ∃ c rest, Nat.toDigits 10 n = c :: rest ∧ c ≠ '0' := by
  induction n using Nat.strongRecOn with
  | _ n ih =>
    by_cases hn : n < 10
    · have hall : ∀ n < 10, 0 < n → n.digitChar ≠ '0' := by decide
      exact ⟨_, _, Nat.toDigits_of_lt_base hn, hall n hn h⟩
    · obtain ⟨c, rest, hdigits, hc⟩ := ih (n / 10) (by omega) (by omega)
      refine ⟨c, rest ++ [(n % 10).digitChar], ?_, hc⟩
      rw [Nat.toDigits_of_base_le (by decide) (Nat.le_of_not_lt hn), hdigits, List.cons_append]

theorem isWholeText_toDigits (n : Nat) : isWholeText (Nat.toDigits 10 n) = true := by
  rcases Nat.eq_zero_or_pos n with rfl | hpos
  · rfl
  · obtain ⟨c, rest, hdigits, hc⟩ := exists_toDigits_eq_cons hpos
    have hall : (c :: rest).all Char.isDigit = true :=
      List.all_eq_true.mpr fun d hd => isDigit_of_mem_toDigits (hdigits ▸ hd)
    rw [hdigits]
    unfold isWholeText
    split
    case h_1 hnil => cases hnil
    case h_2 hzero => exact absurd (List.cons.inj hzero).1 hc
    case h_3 hzero => exact absurd (List.cons.inj hzero).1 hc
    case h_4 => exact hall

/-- The integers that a number without a point and an exponent is read as. -/
def InRange (n : Int) : Prop := -0x8000000000000000 ≤ n ∧ n < UInt64.size

theorem readNumber?_writeInt {n : Int} (h : InRange n) :
    readNumber? (writeInt n) = some (int n) := by
  have hall : ∀ c ∈ Nat.toDigits 10 n.natAbs, c.isDigit = true := fun c => isDigit_of_mem_toDigits
  have htake := List.takeWhile_eq_self_iff.mpr hall
  have hdrop := List.dropWhile_eq_nil_iff.mpr hall
  have hwhole := isWholeText_toDigits n.natAbs
  have hvalue : ofDigits (Nat.toDigits 10 n.natAbs) = n.natAbs := Nat.ofDigitChars_ten_toDigits
  unfold writeInt
  split
  case isTrue hneg =>
    have hn : -(n.natAbs : Int) = n := by omega
    rw [readNumber?]
    simp only [htake, hdrop, hwhole, hvalue, hn, Bool.not_true, Bool.false_eq_true, if_false,
      if_true]
    exact if_pos h
  case isFalse hneg =>
    have hn : (n.natAbs : Int) = n := by omega
    obtain ⟨c, rest, hdigits⟩ :=
      List.exists_cons_of_ne_nil (Nat.toDigits_ne_nil (b := 10) (n := n.natAbs))
    have hc : c ≠ '-' := fun hc => absurd (hall c (hdigits ▸ List.mem_cons_self)) (hc ▸ by decide)
    rw [hdigits] at htake hdrop hwhole hvalue ⊢
    unfold readNumber?
    split
    case h_1 negative digits hmatch =>
      obtain ⟨rfl, rfl⟩ : false = negative ∧ c :: rest = digits := by
        split at hmatch
        case h_1 hminus => exact absurd (List.cons.inj hminus).1 hc
        case h_2 => exact Prod.mk.inj hmatch
      simp only [htake, hdrop, hwhole, hvalue, hn, Bool.not_true, Bool.false_eq_true, if_false,
        if_true]
      exact if_pos h

theorem isNumberChar_of_mem_writeInt {n : Int} {c : Char} (h : c ∈ writeInt n) :
    isNumberChar c = true := by
  have hdigits : ∀ d ∈ Nat.toDigits 10 n.natAbs, isNumberChar d = true := fun d hd => by
    rw [isNumberChar, isDigit_of_mem_toDigits hd]
    rfl
  unfold writeInt at h
  split at h
  · rcases List.mem_cons.mp h with rfl | h
    · decide
    · exact hdigits c h
  · exact hdigits c h

/-! ## Values -/

/-- The values that are told by their text: integers are those of 64 bits, and no floating-point
number is among them. -/
inductive Exact : Json → Prop
  | null : Exact null
  | bool (b : Bool) : Exact (bool b)
  | int {n : Int} : InRange n → Exact (int n)
  | string (text : String) : Exact (string text)
  | array {items : List Json} : (∀ item ∈ items, Exact item) → Exact (array items)
  | object {fields : List (String × Json)} : (∀ field ∈ fields, Exact field.2) →
      Exact (object fields)

/-- What is behind a number does not go on with it. -/
def EndsNumber (rest : List Char) : Prop := ∀ c ∈ rest.head?, isNumberChar c = false

/-- A text that is no blank and no bracket in front. -/
def Starts (text : List Char) : Prop := ∃ c rest, text = c :: rest ∧ isBlank c = false ∧ c ≠ ']'

/-- The value is read off its text, whatever is behind it. -/
def ReadsBack (value : Json) : Prop := ∀ depth rest, value.write.length < depth →
  EndsNumber rest → readValue depth (value.write ++ rest) = some (value, rest)

theorem EndsNumber.takeWhile {rest : List Char} (h : EndsNumber rest) :
    rest.takeWhile isNumberChar = [] := by
  cases rest with
  | nil => rfl
  | cons c rest => rw [List.takeWhile_cons, h c rfl]; rfl

theorem EndsNumber.dropWhile {rest : List Char} (h : EndsNumber rest) :
    rest.dropWhile isNumberChar = rest := by
  cases rest with
  | nil => rfl
  | cons c rest => rw [List.dropWhile_cons, h c rfl]; rfl

theorem skipBlanks_cons {c : Char} (h : isBlank c = false) (rest : List Char) :
    skipBlanks (c :: rest) = c :: rest := by
  rw [skipBlanks, List.dropWhile_cons, h]
  rfl

theorem Starts.skipBlanks {text : List Char} (h : Starts text) (rest : List Char) :
    skipBlanks (text ++ rest) = text ++ rest := by
  obtain ⟨c, more, rfl, hblank, -⟩ := h
  exact skipBlanks_cons hblank _

theorem exists_writeInt_eq_cons (n : Int) : ∃ c rest, writeInt n = c :: rest := by
  unfold writeInt
  split
  · exact ⟨_, _, rfl⟩
  · exact List.exists_cons_of_ne_nil Nat.toDigits_ne_nil

theorem Exact.starts {value : Json} (h : Exact value) : Starts value.write := by
  cases h with
  | null => exact ⟨_, _, rfl, by decide, by decide⟩
  | bool b => cases b <;> exact ⟨_, _, rfl, by decide, by decide⟩
  | @int n _ =>
    obtain ⟨c, rest, hwrite⟩ := exists_writeInt_eq_cons n
    have hc : isNumberChar c = true := isNumberChar_of_mem_writeInt (hwrite ▸ List.mem_cons_self)
    refine ⟨c, rest, by rw [write, hwrite], ?_, fun hbracket => absurd hc (hbracket ▸ by decide)⟩
    refine Bool.eq_false_iff.mpr fun hblank => ?_
    simp only [isBlank, Bool.or_eq_true, decide_eq_true_eq] at hblank
    rcases hblank with ((rfl | rfl) | rfl) | rfl <;> exact absurd hc (by decide)
  | string text => exact ⟨_, _, by rw [write, writeString], by decide, by decide⟩
  | array items | object fields => exact ⟨_, _, by rw [write], by decide, by decide⟩

theorem readsBack_null : ReadsBack null := by
  intro depth rest hdepth _
  obtain ⟨depth, rfl⟩ := Nat.exists_eq_succ_of_ne_zero (Nat.ne_zero_of_lt hdepth)
  rfl

theorem readsBack_bool (b : Bool) : ReadsBack (bool b) := by
  intro depth rest hdepth _
  obtain ⟨depth, rfl⟩ := Nat.exists_eq_succ_of_ne_zero (Nat.ne_zero_of_lt hdepth)
  cases b <;> rfl

theorem readsBack_string (text : String) : ReadsBack (string text) := by
  intro depth rest hdepth _
  obtain ⟨depth, rfl⟩ := Nat.exists_eq_succ_of_ne_zero (Nat.ne_zero_of_lt hdepth)
  rw [write, writeString, List.cons_append, List.append_assoc, List.singleton_append, readValue,
    readChars_flatMap_writeChar]
  simp only [Option.map_some, String.ofList_toList]

theorem readsBack_int {n : Int} (h : InRange n) : ReadsBack (int n) := by
  intro depth rest hdepth hrest
  obtain ⟨depth, rfl⟩ := Nat.exists_eq_succ_of_ne_zero (Nat.ne_zero_of_lt hdepth)
  have hall : ∀ c ∈ writeInt n, isNumberChar c = true := fun c => isNumberChar_of_mem_writeInt
  have hfirst : ∀ c text, isNumberChar c = false → writeInt n ++ rest ≠ c :: text :=
    fun c text hc htext => by
      obtain ⟨d, more, hwrite⟩ := exists_writeInt_eq_cons n
      rw [hwrite, List.cons_append] at htext
      have hd := hall d (hwrite ▸ List.mem_cons_self)
      rw [(List.cons.inj htext).1, hc] at hd
      cases hd
  rw [write, readValue]
  · rw [List.takeWhile_append_of_pos hall, List.dropWhile_append_of_pos hall, hrest.takeWhile,
      hrest.dropWhile, List.append_nil, readNumber?_writeInt h]
    rfl
  -- the other cases of a value begin with characters that are in no number
  all_goals exact fun text => hfirst _ text (by decide)

/-! ### Arrays -/

theorem endsNumber_cons {c : Char} (h : isNumberChar c = false) (rest : List Char) :
    EndsNumber (c :: rest) := fun _ hd => Option.some.inj hd ▸ h

theorem Starts.append {text : List Char} (h : Starts text) (rest : List Char) :
    Starts (text ++ rest) := by
  obtain ⟨c, more, rfl, hc⟩ := h
  exact ⟨c, more ++ rest, rfl, hc⟩

theorem starts_writeItems {items : List Json} (hne : items ≠ [])
    (h : ∀ item ∈ items, Starts item.write) : Starts (writeItems items) := by
  obtain ⟨item, more, rfl⟩ := List.exists_cons_of_ne_nil hne
  have hitem := h item List.mem_cons_self
  cases more with
  | nil => rwa [writeItems]
  | cons next more =>
    rw [writeItems]
    exact hitem.append _

theorem readItems_writeItems {items : List Json} (hne : items ≠ [])
    (hstarts : ∀ item ∈ items, Starts item.write) (hreads : ∀ item ∈ items, ReadsBack item)
    {depth : Nat} (hdepth : (writeItems items).length + 1 < depth) (rest : List Char) :
    readItems depth (writeItems items ++ ']' :: rest) = some (items, rest) := by
  -- each item takes one step of the depth, which the length of the text still exceeds
  induction items generalizing depth with
  | nil => exact absurd rfl hne
  | cons item more ih =>
    obtain ⟨depth, rfl⟩ := Nat.exists_eq_succ_of_ne_zero (Nat.ne_zero_of_lt hdepth)
    obtain ⟨hitem, hmore⟩ := List.forall_mem_cons.mp hreads
    cases more with
    | nil =>
      rw [writeItems] at hdepth ⊢
      rw [readItems, hitem depth _ (by omega) (endsNumber_cons (by decide) rest)]
      rfl
    | cons next more =>
      rw [writeItems, List.length_append, List.length_cons] at hdepth
      have hbehind := (List.forall_mem_cons.mp hstarts).2
      rw [writeItems, List.append_assoc, List.cons_append, readItems,
        hitem depth _ (by omega) (endsNumber_cons (by decide) _)]
      dsimp only
      rw [skipBlanks_cons (by decide)]
      change (readItems depth (skipBlanks (writeItems (next :: more) ++ ']' :: rest))).map _ = _
      rw [(starts_writeItems (List.cons_ne_nil next more) hbehind).skipBlanks,
        ih (List.cons_ne_nil next more) hbehind hmore (by omega)]
      rfl

theorem readsBack_array {items : List Json} (hstarts : ∀ item ∈ items, Starts item.write)
    (hreads : ∀ item ∈ items, ReadsBack item) : ReadsBack (array items) := by
  intro depth rest hdepth _
  obtain ⟨depth, rfl⟩ := Nat.exists_eq_succ_of_ne_zero (Nat.ne_zero_of_lt hdepth)
  rw [write, List.length_cons, List.length_append, List.length_singleton] at hdepth
  have hlength := Nat.lt_of_succ_lt_succ hdepth
  rw [write, List.cons_append, List.append_assoc, List.singleton_append, readValue]
  by_cases hne : items = []
  · subst hne
    rfl
  · have hitems := readItems_writeItems hne hstarts hreads hlength rest
    obtain ⟨c, more, hwrite, hblank, hbracket⟩ := starts_writeItems hne hstarts
    rw [hwrite, List.cons_append] at hitems ⊢
    rw [skipBlanks_cons hblank]
    split
    case h_1 hleft => exact absurd (List.cons.inj hleft).1 hbracket
    case h_2 => rw [hitems, Option.map_some]

/-! ### Objects -/

section Field

variable {name : String} {value : Json} (hstarts : Starts value.write) (hreads : ReadsBack value)
  {depth : Nat} (hdepth : value.write.length < depth) (rest : List Char)

include hstarts hreads hdepth

/-- A field in front of another one. -/
theorem readFields_comma :
    readFields (depth + 1) (writeString name ++ ':' :: (value.write ++ ',' :: rest)) =
      (readFields depth (skipBlanks rest)).map fun found =>
        ((name, value) :: found.1, found.2) := by
  have hname : String.ofList name.toList = name := String.ofList_toList
  have hvalue := hreads depth (',' :: rest) hdepth (endsNumber_cons (by decide) rest)
  rw [writeString, List.cons_append, List.append_assoc, List.singleton_append, readFields,
    readChars_flatMap_writeChar]
  have hcolon := skipBlanks_cons (c := ':') (by decide) (value.write ++ ',' :: rest)
  have hcomma := skipBlanks_cons (c := ',') (by decide) rest
  simp only [hcolon, hstarts.skipBlanks, hvalue, hcomma, hname]

/-- The last field. -/
theorem readFields_brace :
    readFields (depth + 1) (writeString name ++ ':' :: (value.write ++ '}' :: rest)) =
      some ([(name, value)], rest) := by
  have hname : String.ofList name.toList = name := String.ofList_toList
  have hvalue := hreads depth ('}' :: rest) hdepth (endsNumber_cons (by decide) rest)
  rw [writeString, List.cons_append, List.append_assoc, List.singleton_append, readFields,
    readChars_flatMap_writeChar]
  have hcolon := skipBlanks_cons (c := ':') (by decide) (value.write ++ '}' :: rest)
  have hbrace := skipBlanks_cons (c := '}') (by decide) rest
  simp only [hcolon, hstarts.skipBlanks, hvalue, hbrace, hname]

end Field

/-- Fields begin with the quote of a name. -/
theorem exists_writeFields_eq_cons {fields : List (String × Json)} (hne : fields ≠ []) :
    ∃ rest, writeFields fields = '"' :: rest := by
  obtain ⟨⟨name, value⟩, more, rfl⟩ := List.exists_cons_of_ne_nil hne
  cases more <;> exact ⟨_, by rw [writeFields, writeString, List.cons_append]⟩

theorem starts_writeFields {fields : List (String × Json)} (hne : fields ≠ []) :
    Starts (writeFields fields) := by
  obtain ⟨rest, hwrite⟩ := exists_writeFields_eq_cons hne
  exact ⟨_, rest, hwrite, by decide, by decide⟩

theorem readFields_writeFields {fields : List (String × Json)} (hne : fields ≠ [])
    (hstarts : ∀ field ∈ fields, Starts field.2.write)
    (hreads : ∀ field ∈ fields, ReadsBack field.2) {depth : Nat}
    (hdepth : (writeFields fields).length + 1 < depth) (rest : List Char) :
    readFields depth (writeFields fields ++ '}' :: rest) = some (fields, rest) := by
  induction fields generalizing depth with
  | nil => exact absurd rfl hne
  | cons field more ih =>
    obtain ⟨name, value⟩ := field
    obtain ⟨depth, rfl⟩ := Nat.exists_eq_succ_of_ne_zero (Nat.ne_zero_of_lt hdepth)
    obtain ⟨hvalue, hmore⟩ := List.forall_mem_cons.mp hreads
    obtain ⟨hfirst, hbehind⟩ := List.forall_mem_cons.mp hstarts
    cases more with
    | nil =>
      rw [writeFields, List.length_append, List.length_cons] at hdepth
      have hlength : value.write.length < depth := by omega
      rw [writeFields, List.append_assoc, List.cons_append, readFields_brace hfirst hvalue hlength]
    | cons next more =>
      rw [writeFields, List.length_append, List.length_cons, List.length_append,
        List.length_cons] at hdepth
      have hlength : value.write.length < depth := by omega
      rw [writeFields, List.append_assoc, List.cons_append, List.append_assoc, List.cons_append,
        readFields_comma hfirst hvalue hlength,
        (starts_writeFields (List.cons_ne_nil next more)).skipBlanks,
        ih (List.cons_ne_nil next more) hbehind hmore (by omega)]
      rfl

theorem readsBack_object {fields : List (String × Json)}
    (hstarts : ∀ field ∈ fields, Starts field.2.write)
    (hreads : ∀ field ∈ fields, ReadsBack field.2) : ReadsBack (object fields) := by
  intro depth rest hdepth _
  obtain ⟨depth, rfl⟩ := Nat.exists_eq_succ_of_ne_zero (Nat.ne_zero_of_lt hdepth)
  rw [write, List.length_cons, List.length_append, List.length_singleton] at hdepth
  have hlength := Nat.lt_of_succ_lt_succ hdepth
  rw [write, List.cons_append, List.append_assoc, List.singleton_append, readValue]
  by_cases hne : fields = []
  · subst hne
    rfl
  · have hfields := readFields_writeFields hne hstarts hreads hlength rest
    rw [(starts_writeFields hne).skipBlanks]
    obtain ⟨more, hwrite⟩ := exists_writeFields_eq_cons hne
    rw [hwrite, List.cons_append] at hfields ⊢
    change (readFields depth _).map _ = _
    rw [hfields, Option.map_some]

/-! ### All values -/

/-- What is written of a value can be read, whatever is behind it. -/
theorem Exact.readsBack {value : Json} (h : Exact value) : ReadsBack value := by
  induction h with
  | null => exact readsBack_null
  | bool b => exact readsBack_bool b
  | int hrange => exact readsBack_int hrange
  | string text => exact readsBack_string text
  | array hitems ih => exact readsBack_array (fun item hitem => (hitems item hitem).starts) ih
  | object hfields ih =>
    exact readsBack_object (fun field hfield => (hfields field hfield).starts) ih

/-- A value is read off its compact text. -/
theorem read?_render {value : Json} (h : Exact value) : read? value.render = some value := by
  have hread := h.readsBack (value.write.length + 1) [] (Nat.lt_succ_self _) nofun
  have hblanks := h.starts.skipBlanks []
  rw [List.append_nil] at hread hblanks
  rw [read?, render, String.toList_ofList, readText?, hblanks, hread]
  rfl

end RoutingGateway.Json
