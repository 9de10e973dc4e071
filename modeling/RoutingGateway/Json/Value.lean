/-
JSON values and insertion-ordered documents.

Integers and floating-point numbers are different values: `1` is not `1.0`.
An object keeps its fields in the order in which they were put in, and a
field that is put in again keeps its place (`insertField`). Equality of
values (`Json.same`) looks past that order.
-/

namespace RoutingGateway

/-- A JSON value. -/
inductive Json where
  | null
  | bool (value : Bool)
  | int (value : Int)
  | float (value : Float)
  | string (value : String)
  | array (items : List Json)
  | object (fields : List (String × Json))
  deriving Inhabited, Repr

namespace Json

/-! ## Building and looking -/

/-- A computed number. What is not finite has no number in JSON and becomes
null. -/
def number (x : Float) : Json := if x.isFinite then float x else null

/-- The text of a string value. -/
def asString? : Json → Option String
  | string text => some text
  | _ => none

/-- The value of the first field with this name. -/
def field? (name : String) : List (String × Json) → Option Json
  | [] => none
  | (key, value) :: rest => if key = name then some value else field? name rest

/-- Puts a field in: in the place of the first one of that name, else last. -/
def insertField (name : String) (value : Json) : List (String × Json) → List (String × Json)
  | [] => [(name, value)]
  | (key, old) :: rest =>
    if key = name then (key, value) :: rest else (key, old) :: insertField name value rest

/-! ## Equality -/

mutual

/-- Whether two values are equal. Numbers compare by value within their kind,
and objects without regard to the order of their fields. -/
def same : Json → Json → Bool
  | null, null => true
  | bool a, bool b => a == b
  | int a, int b => a == b
  | float a, float b => a == b
  | string a, string b => a == b
  | array a, array b => sameItems a b
  | object a, object b => a.length == b.length && sameFields a b
  | _, _ => false

/-- Whether two lists hold equal values in the same order. -/
def sameItems : List Json → List Json → Bool
  | [], [] => true
  | a :: as, b :: bs => same a b && sameItems as bs
  | _, _ => false

/-- Whether every field of the first list has an equal one in the second. -/
def sameFields : List (String × Json) → List (String × Json) → Bool
  | [], _ => true
  | (name, a) :: rest, fields =>
    (match field? name fields with
      | some b => same a b
      | none => false) && sameFields rest fields

end

end Json

/-! ## Documents -/

/-- A JSON object whose fields stand in the order of their first insertion. -/
structure Document where
  fields : List (String × Json)
  deriving Inhabited, Repr

namespace Document

/-- The document without fields. -/
def empty : Document := ⟨[]⟩

/-- The document that names an error: a code and a message, in this order. -/
def error (code message : String) : Document :=
  ⟨[("code", .string code), ("message", .string message)]⟩

/-- Puts a field in, in its old place if there is one. -/
def insert (doc : Document) (name : String) (value : Json) : Document :=
  ⟨Json.insertField name value doc.fields⟩

/-- The value of a field. -/
def get? (doc : Document) (name : String) : Option Json := Json.field? name doc.fields

/-- The names of the fields in their order. -/
def keys (doc : Document) : List String := doc.fields.map Prod.fst

/-- The document as a value. -/
def toJson (doc : Document) : Json := .object doc.fields

/-- Whether two documents have equal fields, in whatever order. -/
def same (a b : Document) : Bool := a.toJson.same b.toJson

@[simp] theorem keys_empty : empty.keys = [] := rfl

@[simp] theorem get?_empty (name : String) : empty.get? name = none := rfl

theorem get?_insert (doc : Document) (name other : String) (value : Json) :
    (doc.insert name value).get? other =
      if other = name then some value else doc.get? other := by
  obtain ⟨fields⟩ := doc
  simp only [insert, get?]
  induction fields with
  | nil => simp [Json.insertField, Json.field?, eq_comm]
  | cons head rest ih =>
    obtain ⟨key, old⟩ := head
    by_cases h : key = name
    · subst h
      by_cases ho : other = key <;> simp [Json.insertField, Json.field?, ho, eq_comm]
    · by_cases ho : key = other
      · subst ho
        simp [Json.insertField, Json.field?, h]
      · simp [Json.insertField, Json.field?, h, ho, ih]

theorem keys_insert (doc : Document) (name : String) (value : Json) :
    (doc.insert name value).keys =
      if name ∈ doc.keys then doc.keys else doc.keys ++ [name] := by
  obtain ⟨fields⟩ := doc
  simp only [insert, keys]
  induction fields with
  | nil => simp [Json.insertField]
  | cons head rest ih =>
    obtain ⟨key, old⟩ := head
    by_cases h : key = name
    · simp [Json.insertField, h]
    · by_cases hm : name ∈ rest.map Prod.fst <;>
        simp [Json.insertField, h, ih, hm, Ne.symm h]

end Document

end RoutingGateway
