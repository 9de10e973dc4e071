/-
Cutting text at separators, with byte offsets.

Query strings, request targets and coordinate lists are all cut at single
ASCII separators, and every position the gateway reports is a number of
UTF-8 bytes. Text is scanned as a list of characters, so that each
operation has ordinary equation lemmas; `width` measures a text in bytes.

* `cut` splits at the first separator,
* `List.splitOn` (from the core library) splits at every separator,
* `located` adds to each piece the byte offset at which it begins.
-/

namespace RoutingGateway.Text

/-! ## Bytes -/

/-- The number of bytes the text takes in UTF-8. -/
def width : List Char → Nat
  | [] => 0
  | c :: rest => c.utf8Size + width rest

@[simp] theorem width_nil : width [] = 0 := rfl

@[simp] theorem width_cons (c : Char) (rest : List Char) :
    width (c :: rest) = c.utf8Size + width rest := rfl

@[simp] theorem width_append (a b : List Char) : width (a ++ b) = width a + width b := by
  induction a with
  | nil => simp
  | cons c rest ih => simp [ih, Nat.add_assoc]

/-- The bytes of the text in UTF-8. -/
def utf8 (text : String) : List UInt8 := text.toUTF8.data.toList

/-- The text that the bytes encode, when they are UTF-8. -/
def ofUtf8? (bytes : List UInt8) : Option String := String.fromUTF8? bytes.toByteArray

/-! ## The first separator -/

/-- The text before and after the first `sep`; `none` when there is none. -/
def cut (sep : Char) : List Char → Option (List Char × List Char)
  | [] => none
  | c :: rest =>
    if c = sep then some ([], rest)
    else (cut sep rest).map fun (before, after) => (c :: before, after)

theorem cut_eq_none_iff {sep : Char} {text : List Char} :
    cut sep text = none ↔ sep ∉ text := by
  induction text with
  | nil => simp [cut]
  | cons c rest ih =>
    by_cases h : c = sep
    · simp [cut, h]
    · simp [cut, h, ih, Ne.symm h]

theorem cut_eq_some_iff {sep : Char} {text before after : List Char} :
    cut sep text = some (before, after) ↔
      text = before ++ sep :: after ∧ sep ∉ before := by
  induction text generalizing before with
  | nil => simp [cut]
  | cons c rest ih =>
    by_cases h : c = sep
    · subst h
      cases before with
      | nil => simp [cut, eq_comm]
      | cons d more => simp [cut]; rintro rfl; simp
    · cases before with
      | nil => simp [cut, h]
      | cons d more =>
        simp only [cut, h, if_false, Option.map_eq_some_iff, Prod.exists, Prod.mk.injEq,
          List.cons.injEq, List.cons_append, List.mem_cons, not_or]
        constructor
        · rintro ⟨x, y, hxy, ⟨rfl, rfl⟩, rfl⟩
          obtain ⟨rfl, hx⟩ := ih.1 hxy
          exact ⟨⟨rfl, rfl⟩, fun e => h e.symm, hx⟩
        · rintro ⟨⟨rfl, rfl⟩, _, hx⟩
          exact ⟨more, after, ih.2 ⟨rfl, hx⟩, ⟨rfl, rfl⟩, rfl⟩

/-! ## Pieces and their offsets -/

/-- Each piece with the byte offset at which it begins, when the pieces
stand one after the other with a one-byte separator between them and the
first begins at `start`. -/
def located (start : Nat) : List (List Char) → List (Nat × List Char)
  | [] => []
  | piece :: rest => (start, piece) :: located (start + width piece + 1) rest

@[simp] theorem located_nil (start : Nat) : located start [] = [] := rfl

@[simp] theorem located_cons (start : Nat) (piece : List Char) (rest : List (List Char)) :
    located start (piece :: rest) =
      (start, piece) :: located (start + width piece + 1) rest := rfl

/-- What follows `start` in the text, when the text begins with it. -/
def dropStart? : List Char → List Char → Option (List Char)
  | [], text => some text
  | _ :: _, [] => none
  | c :: start, d :: text => if c = d then dropStart? start text else none

theorem dropStart?_eq_some_iff {start text rest : List Char} :
    dropStart? start text = some rest ↔ text = start ++ rest := by
  induction start generalizing text with
  | nil => simp [dropStart?, eq_comm]
  | cons c start ih =>
    cases text with
    | nil => simp [dropStart?]
    | cons d text =>
      by_cases h : c = d
      · simp [dropStart?, h, ih]
      · simp [dropStart?, h, Ne.symm h]

end RoutingGateway.Text
