/-
Containers over whole runs.

A container is made anew, filled, emptied and made anew again, in any order. What it is then
can be told from the list of what was done (`run_eq`): it is of the kind that was made last; a
buffer holds the bytes appended since then (`bytesSince`), and a document the fields put in
since it was last made or emptied (`fieldsSince`), one after the other.

What a container shows follows from that (`run_shows`). A name that is put in again keeps its
place and takes the new value, so the names of a document stand in the order of their first
insertion, each with the value that came last.
-/
import Mathlib.Data.List.DropRight
import RoutingGateway.Container
import RoutingGateway.Proofs.Json.Document

namespace RoutingGateway.Container

/-! ## Codes -/

theorem code?_error (code message : String) :
    (error code message).code? = some code := by
  simp [Container.error, Document.error, Container.code?, Container.get?, Document.get?,
    Json.field?, Json.asString?]

theorem code?_insert {container : Container} {name : String} (h : name ≠ "code")
    (value : Json) : (container.insert name value).code? = container.code? := by
  cases container with
  | document doc =>
    simp only [Container.code?, Container.insert, Container.get?]
    rw [doc.get?_insert, if_neg h.symm]
  | buffer bytes => rfl

theorem code?_eq_some_iff {container : Container} {code : String} :
    container.code? = some code ↔ container.get? "code" = some (.string code) := by
  unfold code?
  cases container.get? "code" with
  | none => simp
  | some value => cases value <;> simp [Json.asString?]

/-! ## Operations -/

/-- How a container is made. -/
inductive Origin where
  | document
  | buffer
  | byDefault
  | error (code message : String)

/-- A container that has just been made. -/
def Origin.make : Origin → Container
  | document => newDocument
  | buffer => newBuffer
  | byDefault => default
  | error code message => .error code message

/-- What is done to a container. -/
inductive Operation where
  /-- It is made anew. -/
  | create (origin : Origin)
  | insert (name : String) (value : Json)
  | append (bytes : List UInt8)
  | clear

/-- The container after an operation. -/
def perform (c : Container) : Operation → Container
  | .create origin => origin.make
  | .insert name value => (c.tryInsert name value).2
  | .append bytes => c.append bytes
  | .clear => c.clear

/-- The container after some operations, one after the other. -/
def run (origin : Origin) (operations : List Operation) : Container :=
  operations.foldl perform origin.make

/-! ## What was done -/

/-- The fields that a container is made with. -/
def Origin.fields : Origin → List (String × Json)
  | error code message => [("code", .string code), ("message", .string message)]
  | _ => []

namespace Operation

/-- How the operation makes the container anew, if it does. -/
def origin? : Operation → Option Origin
  | create origin => some origin
  | _ => none

/-- The fields that a document begins with again, if it does. -/
def start? : Operation → Option (List (String × Json))
  | create origin => some origin.fields
  | clear => some []
  | _ => none

/-- The field that is to be put in. -/
def field? : Operation → Option (String × Json)
  | insert name value => some (name, value)
  | _ => none

/-- The bytes that are to be appended. -/
def bytes : Operation → List UInt8
  | append bytes => bytes
  | _ => []

end Operation

variable (origin : Origin) (operations : List Operation)

/-- How the container was last made. -/
def lastOrigin : Origin := (operations.filterMap Operation.origin?).getLastD origin

/-- The fields put in since the container was last made or emptied, after those it was made
with. -/
def fieldsSince : List (String × Json) :=
  (operations.filterMap Operation.start?).getLastD origin.fields ++
    (operations.rtakeWhile fun operation => operation.start?.isNone).filterMap Operation.field?

/-- The bytes appended since the container was last made. -/
def bytesSince : List UInt8 :=
  (operations.rtakeWhile fun operation => operation.origin?.isNone).flatMap Operation.bytes

/-! ## One more operation -/

variable (operation : Operation)

theorem lastOrigin_concat : lastOrigin origin (operations ++ [operation]) =
    operation.origin?.getD (lastOrigin origin operations) := by
  cases operation <;> simp [lastOrigin, Operation.origin?, List.getLastD_eq_getLast?]

theorem fieldsSince_concat : fieldsSince origin (operations ++ [operation]) =
    operation.start?.getD (fieldsSince origin operations ++ operation.field?.toList) := by
  cases operation <;>
    simp [fieldsSince, Operation.start?, Operation.field?, List.getLastD_eq_getLast?]

theorem bytesSince_concat : bytesSince (operations ++ [operation]) =
    if operation.origin?.isSome then [] else bytesSince operations ++ operation.bytes := by
  cases operation <;> simp [bytesSince, Operation.origin?, Operation.bytes]

/-- The container that was made so and has these bytes since, or these fields. -/
def Origin.holding (bytes : List UInt8) (fields : List (String × Json)) : Origin → Container
  | buffer => .buffer bytes
  | _ => .document (Document.empty.insertAll fields)

theorem Origin.make_eq_holding : origin.make = origin.holding [] origin.fields := by
  cases origin <;> rfl

/-- One step. -/
theorem perform_holding (bytes : List UInt8) (fields : List (String × Json)) :
    (origin.holding bytes fields).perform operation =
      (operation.origin?.getD origin).holding
        (if operation.origin?.isSome then [] else bytes ++ operation.bytes)
        (operation.start?.getD (fields ++ operation.field?.toList)) := by
  cases operation with
  | create made => exact made.make_eq_holding
  | insert name value =>
    have hput := Document.empty.insertAll_append fields [(name, value)]
    cases origin with
    | buffer => exact congrArg Container.buffer (List.append_nil bytes).symm
    | document | byDefault | error => exact congrArg Container.document hput.symm
  | append more =>
    have hkept := congrArg Document.empty.insertAll (List.append_nil fields)
    cases origin with
    | buffer => rfl
    | document | byDefault | error => exact congrArg Container.document hkept.symm
  | clear =>
    cases origin with
    | buffer => exact congrArg Container.buffer (List.append_nil bytes).symm
    | document | byDefault | error => rfl

/-! ## Whole runs -/

/-- What a container is after a run. -/
theorem run_eq : run origin operations =
    (lastOrigin origin operations).holding (bytesSince operations)
      (fieldsSince origin operations) := by
  induction operations using List.reverseRecOn with
  | nil =>
    rw [show fieldsSince origin [] = origin.fields from List.append_nil _]
    exact origin.make_eq_holding
  | append_singleton operations operation ih =>
    rw [run, List.foldl_concat, ← run, ih, perform_holding, lastOrigin_concat,
      fieldsSince_concat, bytesSince_concat]

theorem Origin.holding_cases (bytes : List UInt8) (fields : List (String × Json)) :
    origin = .buffer ∧ origin.holding bytes fields = .buffer bytes ∨
      origin ≠ .buffer ∧
        origin.holding bytes fields = .document (Document.empty.insertAll fields) := by
  cases origin with
  | buffer => exact .inl ⟨rfl, rfl⟩
  | document | byDefault | error => exact .inr ⟨nofun, rfl⟩

/-- Only what makes a container anew gives it another kind. -/
theorem kind_perform {operation : Operation} (h : operation.origin? = none) (c : Container) :
    (c.perform operation).isBuffer = c.isBuffer ∧
      (c.perform operation).isDocument = c.isDocument := by
  cases operation with
  | create made => cases h
  | insert name value => cases c <;> exact ⟨rfl, rfl⟩
  | append bytes => cases c <;> exact ⟨rfl, rfl⟩
  | clear => cases c <;> exact ⟨rfl, rfl⟩

/-- What a container shows after a run. -/
structure Shows (c : Container) : Prop where
  /-- It is of the kind that was made last. -/
  kind : c.isBuffer = true ↔ lastOrigin origin operations = .buffer
  either : c.isDocument = !c.isBuffer
  /-- Only what makes it anew gives it another kind. -/
  lasting : ∀ operation : Operation, operation.origin? = none →
    (c.perform operation).isBuffer = c.isBuffer ∧ (c.perform operation).isDocument = c.isDocument
  /-- A field is taken by a document. -/
  taken : ∀ name value, (c.tryInsert name value).1 = c.isDocument
  refused : ∀ name value, c.isDocument = false → (c.tryInsert name value).2 = c
  /-- The names stand in the order of their first insertion. -/
  keys : ∀ doc, c = .document doc → doc.keys.Nodup ∧
    doc.keys = ((fieldsSince origin operations).map Prod.fst).eraseDups
  /-- Each has the value that came last. -/
  values : ∀ name, c.get? name = if c.isDocument then
    ((fieldsSince origin operations).filter (fun field => field.1 = name)).getLast?.map Prod.snd
    else none
  code : ∀ code, c.code? = some code ↔ c.get? "code" = some (.string code)
  bytes : c.bytes? = if c.isBuffer then some (bytesSince operations) else none
  /-- It goes out under its kind, a buffer with its bytes. -/
  encoded : c.encode.contentType = (if c.isBuffer then bufferType else documentType) ∧
    (c.isBuffer = true → c.encode.body = bytesSince operations)

/-- After every run a container shows what was done to it since it was last made or emptied. -/
theorem run_shows : (run origin operations).Shows origin operations := by
  have hrun := run_eq origin operations
  rcases Origin.holding_cases _ _ _ with ⟨hmade, hholding⟩ | ⟨hmade, hholding⟩
  · rw [hrun, hholding]
    exact
      { kind := iff_of_true rfl hmade
        either := rfl
        lasting := fun _ hnone => kind_perform hnone _
        taken := fun _ _ => rfl
        refused := fun _ _ _ => rfl
        keys := nofun
        values := fun _ => rfl
        code := fun _ => code?_eq_some_iff
        bytes := rfl
        encoded := ⟨rfl, fun _ => rfl⟩ }
  · rw [hrun, hholding]
    exact
      { kind := iff_of_false nofun hmade
        either := rfl
        lasting := fun _ hnone => kind_perform hnone _
        taken := fun _ _ => rfl
        refused := nofun
        keys := fun doc hdoc => by
          cases hdoc
          exact ⟨Document.nodup_keys_insertAll_empty _, Document.keys_insertAll_empty _⟩
        values := Document.get?_insertAll_empty _
        code := fun _ => code?_eq_some_iff
        bytes := rfl
        encoded := ⟨rfl, nofun⟩ }

/-- A field that is put in again keeps its place. -/
example : run .buffer [.append [7], .create .document, .insert "a" .null, .insert "b" .null,
      .insert "a" (.int 3), .append [9]] =
    .document ⟨[("a", .int 3), ("b", .null)]⟩ := rfl

end RoutingGateway.Container
