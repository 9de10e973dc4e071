/-
What can be told from the text of a JSON document.

Most characters stand for themselves in a string. A text of such characters can be read off the
text of a document that holds it, up to the quote behind it. So a document whose text is that of
an error document with such a code and such a message is this error document
(`Document.eq_error_of_write`), whatever else might have been written there. And two error
documents that differ in a number at the end of their messages alone have different bytes
(`Container.encode_error_inj`).
-/
import RoutingGateway.Container

namespace RoutingGateway

/-! ## Bytes -/

/-- Different texts have different bytes. -/
theorem Text.utf8_inj {a b : String} : Text.utf8 a = Text.utf8 b ↔ a = b := by
  unfold Text.utf8
  rw [Array.toList_inj]
  constructor
  · intro h
    exact String.toByteArray_inj.mp (ByteArray.ext h)
  · intro h
    rw [h]

namespace Json

open Decimal

/-! ## Plain characters -/

/-- A digit is written as it is. -/
theorem writeChar_of_isDigit {c : Char} (h : c.isDigit = true) : writeChar c = [c] := by
  have hne (d : Char) (hd : d.isDigit = false) : c ≠ d := fun e => by
    rw [e, hd] at h
    cases h
  have hspace : ¬ c.toNat < 32 := by
    have hzero : 48 ≤ c.toNat := by
      simp only [Char.isDigit, Bool.and_eq_true, decide_eq_true_eq] at h
      exact UInt32.le_iff_toNat_le.mp h.1
    omega
  rw [writeChar, if_neg (hne _ rfl), if_neg (hne _ rfl), if_neg (hne _ rfl), if_neg (hne _ rfl),
    if_neg (hne _ rfl), if_neg (hne _ rfl), if_neg (hne _ rfl), if_neg hspace]

/-- Nothing in the text is escaped. -/
def Literal (text : List Char) : Prop := ∀ c ∈ text, writeChar c = [c]

instance (text : List Char) : Decidable (Literal text) :=
  decidable_of_iff (text.all fun c => writeChar c == [c]) (by simp [Literal])

theorem Literal.flatMap_writeChar {text : List Char} (h : Literal text) :
    text.flatMap writeChar = text := by
  induction text with
  | nil => rfl
  | cons c text ih =>
    rw [List.flatMap_cons, h c (by simp), ih fun d hd => h d (List.mem_cons_of_mem c hd)]
    rfl

theorem literal_toDigits (n : Nat) : Literal (Nat.toDigits 10 n) := fun _ hc =>
  writeChar_of_isDigit (Nat.isDigit_of_mem_toDigits (by decide) (by decide) hc)

theorem Literal.append_toString {text : String} (h : Literal text.toList) (n : Nat) :
    Literal (text ++ toString n).toList := by
  rw [String.toList_append, Nat.toString_eq_repr, Nat.toList_repr]
  exact List.forall_mem_append.mpr ⟨h, literal_toDigits n⟩

/-- Messages that end in a number are written differently for different numbers. -/
theorem writeString_append_toString_inj {text : String} {a b : Nat}
    (h : writeString (text ++ toString a) = writeString (text ++ toString b)) : a = b := by
  have digits (n : Nat) : (toString n).toList.flatMap writeChar = Nat.toDigits 10 n := by
    rw [Nat.toString_eq_repr, Nat.toList_repr]
    exact (literal_toDigits n).flatMap_writeChar
  simp only [writeString, String.toList_append, List.flatMap_append, digits, List.cons.injEq,
    List.append_cancel_left_eq, List.append_cancel_right_eq, true_and] at h
  have hvalue := congrArg (fun l => Nat.ofDigitChars 10 l 0) h
  simpa only [Nat.ofDigitChars_ten_toDigits] using hvalue

/-! ## Strings read off -/

/-- A character is written as it is, or behind a backslash. Neither begins with a quote. -/
theorem writeChar_cases (c : Char) :
    writeChar c = [c] ∧ c ≠ '"' ∧ c ≠ '\\' ∨ ∃ rest, writeChar c = '\\' :: rest := by
  by_cases hquote : c = '"'
  · exact .inr ⟨_, by rw [writeChar, if_pos hquote]⟩
  by_cases hbackslash : c = '\\'
  · exact .inr ⟨_, by rw [writeChar, if_neg hquote, if_pos hbackslash]⟩
  rw [writeChar, if_neg hquote, if_neg hbackslash]
  repeat' split
  · exact .inr ⟨_, rfl⟩
  · exact .inr ⟨_, rfl⟩
  · exact .inr ⟨_, rfl⟩
  · exact .inr ⟨_, rfl⟩
  · exact .inr ⟨_, rfl⟩
  · exact .inr ⟨_, rfl⟩
  · exact .inl ⟨rfl, hquote, hbackslash⟩

/-- The quote behind a string ends it. -/
theorem flatMap_writeChar_append_inj {text chars rest rest' : List Char}
    (hliteral : Literal text)
    (h : chars.flatMap writeChar ++ '"' :: rest = text ++ '"' :: rest') :
    chars = text ∧ rest = rest' := by
  induction text generalizing chars with
  | nil =>
    cases chars with
    | nil => exact ⟨rfl, (List.cons.inj h).2⟩
    | cons c chars =>
      rcases writeChar_cases c with ⟨hc, hquote, -⟩ | ⟨more, hc⟩
      · rw [List.flatMap_cons, hc] at h
        exact absurd (List.cons.inj h).1 hquote
      · rw [List.flatMap_cons, hc] at h
        exact absurd (List.cons.inj h).1 (by decide)
  | cons t text ih =>
    obtain ⟨ht, htext⟩ := List.forall_mem_cons.mp hliteral
    have hquote : t ≠ '"' := fun e => absurd (e ▸ ht) (by decide)
    have hbackslash : t ≠ '\\' := fun e => absurd (e ▸ ht) (by decide)
    cases chars with
    | nil => exact absurd (List.cons.inj h).1.symm hquote
    | cons c chars =>
      -- a character that is escaped begins with a backslash, and there is none in the text
      rcases writeChar_cases c with ⟨hc, -, -⟩ | ⟨more, hc⟩
      · rw [List.flatMap_cons, hc] at h
        obtain ⟨hhead, htail⟩ := List.cons.inj h
        obtain ⟨hchars, hrest⟩ := ih htext htail
        exact ⟨by rw [hhead, hchars], hrest⟩
      · rw [List.flatMap_cons, hc] at h
        exact absurd (List.cons.inj h).1.symm hbackslash

/-- A text without escapes can be read off. -/
theorem writeString_append_inj {text text' : String} (hliteral : Literal text'.toList)
    {rest rest' : List Char} (h : writeString text ++ rest = writeString text' ++ rest') :
    text = text' ∧ rest = rest' := by
  have hwritten := hliteral.flatMap_writeChar
  simp only [writeString, hwritten, List.cons_append, List.append_assoc, List.nil_append,
    List.cons.injEq, true_and] at h
  obtain ⟨htext, hrest⟩ := flatMap_writeChar_append_inj hliteral h
  exact ⟨String.toList_inj.mp htext, hrest⟩

/-! ## Numbers -/

theorem quote_not_mem_toDigits (n : Nat) : '"' ∉ Nat.toDigits 10 n := fun h =>
  absurd (Nat.isDigit_of_mem_toDigits (by decide) (by decide) h) (by decide)

theorem quote_not_mem_writeInt (n : Int) : '"' ∉ writeInt n := by
  unfold writeInt
  split
  · simpa using quote_not_mem_toDigits n.natAbs
  · exact quote_not_mem_toDigits n.natAbs

theorem quote_not_mem_repr (n : Int) : '"' ∉ n.repr.toList := by
  cases n with
  | ofNat n =>
    rw [Int.repr, Nat.toList_repr]
    exact quote_not_mem_toDigits n
  | negSucc n =>
    rw [Int.repr, String.toList_append, Nat.toList_repr]
    simpa using quote_not_mem_toDigits (n + 1)

theorem quote_not_mem_pointAfter {digits : List Char} {count : Int} (h : '"' ∉ digits) :
    '"' ∉ pointAfter numberLayout digits count := by
  have htake : '"' ∉ digits.take count.toNat := mt List.mem_of_mem_take h
  have hdrop : '"' ∉ digits.drop count.toNat := mt List.mem_of_mem_drop h
  unfold pointAfter
  split
  · simp [h]
  · split
    · simp [numberLayout, h]
    · simp [htake, hdrop]

theorem quote_not_mem_withExponent {digits : List Char} {exponent : Int} (h : '"' ∉ digits) :
    '"' ∉ withExponent numberLayout digits exponent := by
  have hexponent : '"' ∉ exponent.repr.toList := quote_not_mem_repr exponent
  have hplus : '"' ∉ (if 0 ≤ exponent then numberLayout.exponentPlus.toList else []) := by
    split <;> decide
  unfold withExponent
  match digits with
  | [] => simp [hplus, hexponent]
  | [_] => simp_all
  | _ :: _ :: _ => simp_all

theorem quote_not_mem_digits_write (d : Digits) : '"' ∉ d.write numberLayout := by
  have hdigits := quote_not_mem_toDigits d.coefficient
  unfold Digits.write
  dsimp only
  split
  · exact quote_not_mem_pointAfter hdigits
  · exact quote_not_mem_withExponent hdigits

theorem quote_not_mem_writeFloat (x : Float) : '"' ∉ writeFloat x := by
  unfold writeFloat
  split
  · unfold writeShortest signed
    dsimp only
    split
    · simpa using quote_not_mem_digits_write _
    · exact quote_not_mem_digits_write _
  · decide

/-- Only the text of a string begins with a quote. -/
theorem exists_string_of_write {value : Json} {rest rest' : List Char}
    (hrest : rest.head? ≠ some '"') (h : value.write ++ rest = '"' :: rest') :
    ∃ text, value = .string text := by
  have hnone : '"' ∉ value.write → False := fun hnot => by
    cases hwrite : value.write with
    | nil =>
      rw [hwrite] at h
      exact hrest (by rw [List.nil_append] at h; rw [h]; rfl)
    | cons c more =>
      rw [hwrite] at h hnot
      exact hnot ((List.cons.inj h).1 ▸ List.mem_cons_self)
  cases value with
  | string text => exact ⟨text, rfl⟩
  | null => exact absurd (by decide) hnone
  | bool b => cases b <;> exact absurd (by decide) hnone
  | int n => exact (hnone (by rw [write]; exact quote_not_mem_writeInt n)).elim
  | float x => exact (hnone (by rw [write]; exact quote_not_mem_writeFloat x)).elim
  | array items => rw [write] at h; cases h
  | object fields => rw [write] at h; cases h

theorem eq_string_of_write {value : Json} {text : String} (hliteral : Literal text.toList)
    {rest rest' : List Char} (hrest : rest.head? ≠ some '"')
    (h : value.write ++ rest = writeString text ++ rest') :
    value = .string text ∧ rest = rest' := by
  obtain ⟨text', rfl⟩ := exists_string_of_write hrest h
  rw [write] at h
  obtain ⟨rfl, hsame⟩ := writeString_append_inj hliteral h
  exact ⟨rfl, hsame⟩

/-- The field with a string is told from all others by its text. -/
theorem field_eq_of_write {name name' text : String} {value : Json} (hname : Literal name'.toList)
    (htext : Literal text.toList) {rest rest' : List Char} (hrest : rest.head? ≠ some '"')
    (h : writeString name ++ ':' :: (value.write ++ rest) =
      writeString name' ++ ':' :: (writeString text ++ rest')) :
    (name, value) = (name', .string text) ∧ rest = rest' := by
  obtain ⟨rfl, hbehind⟩ := writeString_append_inj hname h
  obtain ⟨rfl, hsame⟩ := eq_string_of_write htext hrest (List.cons.inj hbehind).2
  exact ⟨rfl, hsame⟩

end Json

/-! ## Error documents -/

/-- The text of an error document. -/
theorem Document.write_error (code message : String) :
    (Document.error code message).toJson.write =
      '{' :: (Json.writeString "code" ++ ':' :: (Json.writeString code ++ ',' ::
        (Json.writeString "message" ++ ':' :: Json.writeString message)) ++ ['}']) := by
  simp [Document.error, Document.toJson, Json.write, Json.writeFields]

/-- No other document has the text of an error document. -/
theorem Document.eq_error_of_write {doc : Document} {code message : String}
    (hcode : Json.Literal code.toList) (hmessage : Json.Literal message.toList)
    (h : doc.toJson.write = (Document.error code message).toJson.write) :
    doc = .error code message := by
  have hname : Json.Literal "code".toList := by decide
  have hsecond : Json.Literal "message".toList := by decide
  obtain ⟨fields⟩ := doc
  simp only [Document.error, Document.toJson, Json.write, Json.writeFields, List.cons.injEq,
    true_and, List.append_assoc, List.cons_append] at h
  match fields with
  | [] => cases h
  | [(name, value)] =>
    simp only [Json.writeFields, List.append_assoc, List.cons_append] at h
    obtain ⟨-, hrest⟩ := Json.field_eq_of_write hname hcode (by simp) h
    cases hrest
  | [(name, value), (name', value')] =>
    simp only [Json.writeFields, List.append_assoc, List.cons_append] at h
    obtain ⟨hfirst, hrest⟩ := Json.field_eq_of_write hname hcode (by simp) h
    obtain ⟨hlast, -⟩ := Json.field_eq_of_write hsecond hmessage (by simp) (List.cons.inj hrest).2
    rw [hfirst, hlast]
    rfl
  | (name, value) :: (name', value') :: third :: rest =>
    simp only [Json.writeFields, List.append_assoc, List.cons_append] at h
    obtain ⟨-, hrest⟩ := Json.field_eq_of_write hname hcode (by simp) h
    obtain ⟨-, hmore⟩ := Json.field_eq_of_write hsecond hmessage (by simp) (List.cons.inj hrest).2
    cases hmore

/-- No other answer has the content type and the bytes of an error document. -/
theorem Container.eq_error_of_body {container : Container} {code message : String}
    (hcode : Json.Literal code.toList) (hmessage : Json.Literal message.toList)
    (htype : container.encode.contentType = documentType)
    (hbody : container.encode.body = (Container.error code message).encode.body) :
    container = .error code message := by
  cases container with
  | document doc =>
    have hwrite := String.ofList_inj.mp (Text.utf8_inj.mp hbody)
    rw [Document.eq_error_of_write hcode hmessage hwrite]
    rfl
  | buffer bytes =>
    have hsame : bufferType = documentType := htype
    exact absurd hsame (by decide)

/-- The bytes of a document that ends its message with a number tell the number. -/
theorem Container.encode_error_inj {code text : String} {a b : Nat}
    (h : (Container.error code (text ++ toString a)).encode.body =
      (Container.error code (text ++ toString b)).encode.body) : a = b := by
  have hrender := Text.utf8_inj.mp h
  have hwrite := String.ofList_inj.mp hrender
  rw [Document.write_error, Document.write_error] at hwrite
  simp only [List.cons.injEq, List.append_cancel_right_eq, List.append_cancel_left_eq,
    true_and] at hwrite
  exact Json.writeString_append_toString_inj hwrite

end RoutingGateway
