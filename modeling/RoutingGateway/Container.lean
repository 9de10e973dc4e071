/-
The container of one answer.

An engine is handed a container of the wanted kind and writes into it; error
answers are documents whatever was wanted. A document takes named fields, a
buffer takes bytes, and neither operation touches the other kind.
-/
import RoutingGateway.Json.Writer
import RoutingGateway.Text.Split

namespace RoutingGateway

/-- How a request ended. -/
inductive Status where
  | ok
  | error
  deriving DecidableEq, Repr, Inhabited

/-- The name of a status. -/
def Status.name : Status → String
  | .ok => "Ok"
  | .error => "Error"

/-- An answer under construction. -/
inductive Container where
  | document (doc : Document)
  | buffer (bytes : List UInt8)
  deriving Inhabited, Repr

/-- An encoded answer and what it is. -/
structure Encoded where
  contentType : String
  body : List UInt8
  deriving DecidableEq, Repr

namespace Container

/-! ## Making -/

/-- An empty document. -/
def newDocument : Container := document .empty

/-- An empty buffer. -/
def newBuffer : Container := buffer []

/-- A document that names an error. -/
def error (code message : String) : Container := document (.error code message)

/-! ## Looking -/

/-- Whether this is a document. -/
def isDocument : Container → Bool
  | document _ => true
  | buffer _ => false

/-- Whether this is a buffer. -/
def isBuffer : Container → Bool
  | document _ => false
  | buffer _ => true

/-- A field of the document; a buffer has none. -/
def get? : Container → String → Option Json
  | document doc, name => doc.get? name
  | buffer _, _ => none

/-- The code of the document, when it is a string. -/
def code? (c : Container) : Option String := (c.get? "code").bind Json.asString?

/-- The bytes of the buffer. -/
def bytes? : Container → Option (List UInt8)
  | document _ => none
  | buffer bytes => some bytes

/-- Whether two containers are of one kind and hold the same. -/
def same : Container → Container → Bool
  | document a, document b => a.same b
  | buffer a, buffer b => a == b
  | _, _ => false

/-! ## Writing -/

/-- Puts a field into a document; a buffer stays as it is. -/
def insert (c : Container) (name : String) (value : Json) : Container :=
  match c with
  | document doc => document (doc.insert name value)
  | buffer bytes => buffer bytes

/-- Puts a field into a document and says so; a buffer stays as it is, and that is said too. -/
def tryInsert (c : Container) (name : String) (value : Json) : Bool × Container :=
  match c with
  | document doc => (true, document (doc.insert name value))
  | buffer bytes => (false, buffer bytes)

/-- Appends bytes to a buffer; a document stays as it is. -/
def append (c : Container) (more : List UInt8) : Container :=
  match c with
  | document doc => document doc
  | buffer bytes => buffer (bytes ++ more)

/-- Takes all fields out of a document; a buffer stays as it is. -/
def clear : Container → Container
  | document _ => newDocument
  | buffer bytes => buffer bytes

/-! ## Encoding -/

/-- The content type of documents. -/
def documentType : String := "application/json; charset=UTF-8"

/-- The content type of buffers. -/
def bufferType : String := "application/x-flatbuffers"

/-- The body of an answer: the text of a document, or a buffer's own bytes. -/
def encode : Container → Encoded
  | document doc => { contentType := documentType, body := Text.utf8 doc.toJson.render }
  | buffer bytes => { contentType := bufferType, body := bytes }

/-! ## What an operation does to each view -/

@[simp] theorem isDocument_insert (c : Container) (name : String) (value : Json) :
    (c.insert name value).isDocument = c.isDocument := by cases c <;> rfl

@[simp] theorem isBuffer_insert (c : Container) (name : String) (value : Json) :
    (c.insert name value).isBuffer = c.isBuffer := by cases c <;> rfl

@[simp] theorem bytes?_insert (c : Container) (name : String) (value : Json) :
    (c.insert name value).bytes? = c.bytes? := by cases c <;> rfl

theorem tryInsert_eq (c : Container) (name : String) (value : Json) :
    c.tryInsert name value = (c.isDocument, c.insert name value) := by cases c <;> rfl

theorem bytes?_append (c : Container) (more : List UInt8) :
    (c.append more).bytes? = c.bytes?.map (· ++ more) := by cases c <;> rfl

theorem get?_insert (c : Container) (name other : String) (value : Json)
    (h : c.isDocument = true) :
    (c.insert name value).get? other = if other = name then some value else c.get? other := by
  cases c with
  | document doc => exact doc.get?_insert name other value
  | buffer bytes => simp [isDocument] at h

end Container

end RoutingGateway
