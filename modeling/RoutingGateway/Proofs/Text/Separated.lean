/-
Texts that are pieces with a separator between them, and the bytes they
take.

`Separated sep Item text values` says that `text` is some pieces joined by
`sep`, and that the pieces are, one by one, texts of the `values`. It does
not say how the pieces are found. Where no item contains the separator there
is only one way to cut the text (`separated_iff_splitOn`), and reading the
cut pieces one after the other decides the relation (`mapM_eq_some_iff`).

The second half counts bytes: a piece that stands behind others begins where
their bytes and separators end (`located_append`), and what those take is one
byte more than the pieces joined (`width_intercalate`).
-/
import Mathlib.Data.List.Forall2
import RoutingGateway.Text.Split

namespace RoutingGateway.Text

variable {α β : Type}

/-! ## Reading a list of pieces -/

/-- Reading all pieces succeeds exactly when every piece reads as its value. -/
theorem mapM_eq_some_iff {f : α → Option β} {pieces : List α} {values : List β} :
    pieces.mapM f = some values ↔ List.Forall₂ (fun a b => f a = some b) pieces values := by
  induction pieces generalizing values with
  | nil => simp [eq_comm]
  | cons a rest ih =>
    rw [List.mapM_cons]
    constructor
    · intro h
      obtain ⟨b, hb, h⟩ := Option.bind_eq_some_iff.mp h
      obtain ⟨bs, hbs, h⟩ := Option.bind_eq_some_iff.mp h
      obtain rfl := Option.some.inj h
      exact .cons hb (ih.mp hbs)
    · intro h
      cases h with
      | cons hb hbs => simp [hb, ih.mpr hbs]

/-! ## Pieces with a separator between them -/

/-- The text is pieces joined by `sep`, at least one, and the pieces are texts of
the values. -/
def Separated (sep : Char) (Item : List Char → β → Prop) (text : List Char)
    (values : List β) : Prop :=
  ∃ pieces, pieces ≠ [] ∧ text = [sep].intercalate pieces ∧ List.Forall₂ Item pieces values

variable {sep : Char} {Item : List Char → β → Prop} {text : List Char} {values : List β}

/-- What holds of every text of a value holds of the pieces. -/
theorem forall_mem_of_forall₂ {P : List Char → Prop}
    (hP : ∀ piece value, Item piece value → P piece) {pieces : List (List Char)}
    (h : List.Forall₂ Item pieces values) : ∀ piece ∈ pieces, P piece := by
  induction h with
  | nil => simp
  | cons hi _ ih => exact List.forall_mem_cons.mpr ⟨hP _ _ hi, ih⟩

section Forall₂

variable {R : α → β → Prop} {as : List α} {bs : List β} (h : List.Forall₂ R as bs)

include h

theorem exists_right_of_forall₂ {a : α} (ha : a ∈ as) : ∃ b ∈ bs, R a b := by
  induction h with
  | nil => cases ha
  | cons hr _ ih =>
    rcases List.mem_cons.mp ha with rfl | ha
    · exact ⟨_, List.mem_cons_self, hr⟩
    · obtain ⟨b, hb, hab⟩ := ih ha
      exact ⟨b, List.mem_cons_of_mem _ hb, hab⟩

theorem exists_left_of_forall₂ {b : β} (hb : b ∈ bs) : ∃ a ∈ as, R a b :=
  exists_right_of_forall₂ h.flip hb

end Forall₂

/-- Where no item contains the separator, the pieces are those between the
separators. -/
theorem separated_iff_splitOn (hsep : ∀ piece value, Item piece value → sep ∉ piece) :
    Separated sep Item text values ↔ List.Forall₂ Item (text.splitOn sep) values := by
  constructor
  · intro ⟨pieces, hne, htext, h⟩
    rwa [htext, List.splitOn_intercalate sep (forall_mem_of_forall₂ hsep h) hne]
  · intro h
    exact ⟨text.splitOn sep, by simp, by simp, h⟩

/-- A separated text is never without values. -/
theorem Separated.values_ne_nil (h : Separated sep Item text values) : values ≠ [] := by
  obtain ⟨pieces, hne, -, h⟩ := h
  intro hnil
  rw [hnil] at h
  exact hne (List.forall₂_nil_right_iff.mp h)

/-- The characters of joined pieces are the separator and those of the pieces. -/
theorem mem_intercalate {c : Char} {pieces : List (List Char)}
    (h : c ∈ [sep].intercalate pieces) : c = sep ∨ ∃ piece ∈ pieces, c ∈ piece := by
  induction pieces with
  | nil => simp at h
  | cons piece rest ih =>
    cases rest with
    | nil => exact .inr ⟨piece, by simp, by simpa using h⟩
    | cons next rest =>
      rw [List.intercalate_cons_cons, List.append_assoc, List.mem_append, List.mem_append] at h
      rcases h with h | h | h
      · exact .inr ⟨piece, by simp, h⟩
      · exact .inl (by simpa using h)
      · rcases ih h with rfl | ⟨piece', hp, hc⟩
        · exact .inl rfl
        · exact .inr ⟨piece', List.mem_cons_of_mem _ hp, hc⟩

/-- What holds of the separator and of every character of an item holds of every
character of the text. -/
theorem Separated.forall_mem {P : Char → Prop} (h : Separated sep Item text values)
    (hsep : P sep) (hitem : ∀ piece value, Item piece value → ∀ c ∈ piece, P c) :
    ∀ c ∈ text, P c := by
  obtain ⟨pieces, -, rfl, h⟩ := h
  intro c hc
  rcases mem_intercalate hc with rfl | ⟨piece, hp, hc⟩
  · exact hsep
  · exact forall_mem_of_forall₂ hitem h piece hp c hc

/-- Two runs of pieces joined are joined by one more separator. -/
theorem intercalate_append {front rest : List (List Char)} (hfront : front ≠ [])
    (hrest : rest ≠ []) :
    [sep].intercalate (front ++ rest) =
      [sep].intercalate front ++ sep :: [sep].intercalate rest := by
  induction front with
  | nil => exact absurd rfl hfront
  | cons piece front ih =>
    cases front with
    | nil => rw [List.singleton_append, List.intercalate_cons_of_ne_nil hrest]; simp
    | cons next front =>
      rw [List.cons_append, List.intercalate_cons_of_ne_nil (by simp), ih (by simp),
        List.intercalate_cons_cons]
      simp

/-- No piece between separators holds a separator. -/
theorem not_mem_of_mem_splitOn {piece : List Char} (h : piece ∈ text.splitOn sep) :
    sep ∉ piece := by
  induction text generalizing piece with
  | nil => simp_all
  | cons c rest ih =>
    rw [List.splitOn_cons_eq_if_modifyHead] at h
    split at h
    · rcases List.mem_cons.mp h with h | h
      · simp [h]
      · exact ih h
    · next hc =>
      cases hrest : rest.splitOn sep with
      | nil => exact absurd hrest (by simp)
      | cons first more =>
        rw [hrest] at h ih
        rcases List.mem_cons.mp h with h | h
        · have := ih (List.mem_cons_self (a := first) (l := more))
          rw [h, List.mem_cons, not_or]
          exact ⟨fun e => hc (by simp [e]), this⟩
        · exact ih (List.mem_cons_of_mem _ h)

/-! ## Beginnings -/

theorem dropStart?_append (start rest : List Char) : dropStart? start (start ++ rest) = some rest :=
  dropStart?_eq_some_iff.mpr rfl

/-! ## Bytes -/

theorem utf8ByteSize_ofList (text : List Char) : (String.ofList text).utf8ByteSize = width text := by
  induction text with
  | nil => rfl
  | cons c rest ih =>
    rw [String.ofList_cons, String.utf8ByteSize_append, String.utf8ByteSize_singleton, ih, width_cons]

theorem utf8ByteSize_eq_width (text : String) : text.utf8ByteSize = width text.toList := by
  rw [← utf8ByteSize_ofList, String.ofList_toList]

theorem utf8_append (a b : String) : utf8 (a ++ b) = utf8 a ++ utf8 b := by
  unfold utf8
  rw [String.toUTF8_eq_toByteArray, String.toByteArray_append, ByteArray.data_append,
    Array.toList_append]
  rfl

theorem length_utf8 (text : String) : (utf8 text).length = text.utf8ByteSize := rfl

/-- The bytes of some pieces, each with a one-byte separator behind it. -/
def extent : List (List Char) → Nat
  | [] => 0
  | piece :: rest => width piece + 1 + extent rest

@[simp] theorem extent_nil : extent [] = 0 := rfl

@[simp] theorem extent_cons (piece : List Char) (rest : List (List Char)) :
    extent (piece :: rest) = width piece + 1 + extent rest := rfl

/-- Joined pieces have one separator less than pieces. -/
theorem width_intercalate (hsep : sep.utf8Size = 1) {pieces : List (List Char)}
    (h : pieces ≠ []) : width ([sep].intercalate pieces) + 1 = extent pieces := by
  induction pieces with
  | nil => exact absurd rfl h
  | cons piece rest ih =>
    cases rest with
    | nil => simp
    | cons next rest =>
      have := ih (by simp)
      rw [List.intercalate_cons_cons, width_append, width_append, extent_cons, width_cons, hsep,
        width_nil]
      omega

/-- Pieces behind others begin where the bytes of those end. -/
theorem located_append (start : Nat) (front rest : List (List Char)) :
    located start (front ++ rest) =
      located start front ++ located (start + extent front) rest := by
  induction front generalizing start with
  | nil => simp
  | cons piece front ih =>
    rw [List.cons_append, located_cons, located_cons, ih, extent_cons, List.cons_append]
    congr 3
    omega

end RoutingGateway.Text
