/-
What a service adds to the answer of its engine.

The time that the engine took goes into a document, and nowhere else. The engine may leave
whatever container it likes, of whatever kind it was handed: where it leaves a document, the
time is its last field, or stands in the place of a field of that name which the engine wrote
itself, and all other fields are as the engine wrote them, in their order. A buffer goes out
as it is, and so does the status (`run_annotated`).
-/
import RoutingGateway.Proofs.Json.Document
import RoutingGateway.Proofs.Service.Pipeline

namespace RoutingGateway.Service

/-- An answer of the engine is returned with its status, and with nothing but the time put
into it. -/
theorem run_of_answered (service : Service) (elapsed offset : Nat) {query : String}
    {p : Parameters} {status : Status} {left : Container}
    (hparse : (service.parser.parse query).value = .ok (some p, query.utf8ByteSize))
    (hagree : p.Agree)
    (hcall : (service.engine.route p (freshContainer p.outputFormat)).value = .ok (status, left)) :
    (service.run elapsed offset query).value =
      .ok (status, left.insert durationField (.int (min elapsed maxElapsed : Nat))) := by
  rw [run_of_agree service elapsed offset hparse hagree, dispatch_eq service elapsed p rfl, hcall]
  rfl

/-- Of a query that reaches the engine, the engine's status is returned, and what it left. A
document has the time in it, which is told up to the greatest number of 64 bits: behind the
engine's fields, or in the place of the field of this name. A buffer is what it was. -/
theorem run_annotated (service : Service) (elapsed offset : Nat) {query : String}
    {p : Parameters} {status : Status} {left : Container}
    (hparse : (service.parser.parse query).value = .ok (some p, query.utf8ByteSize))
    (hagree : p.Agree)
    (hcall : (service.engine.route p
      (if p.format = some .flatbuffers then .buffer [] else .document ⟨[]⟩)).value =
        .ok (status, left)) :
    let time : Json := .int (min elapsed (UInt64.size - 1) : Nat)
    (∀ fields, left = .document ⟨fields⟩ → "durationNanos" ∉ fields.map Prod.fst →
      (service.run elapsed offset query).value =
        .ok (status, .document ⟨fields ++ [("durationNanos", time)]⟩)) ∧
    (∀ front old rest, left = .document ⟨front ++ ("durationNanos", old) :: rest⟩ →
      "durationNanos" ∉ front.map Prod.fst →
      (service.run elapsed offset query).value =
        .ok (status, .document ⟨front ++ ("durationNanos", time) :: rest⟩)) ∧
    ∀ bytes, left = .buffer bytes →
      (service.run elapsed offset query).value = .ok (status, .buffer bytes) := by
  intro time
  rw [← freshContainer_outputFormat] at hcall
  have hrun := run_of_answered service elapsed offset hparse hagree hcall
  refine ⟨fun fields hleft hnew => ?_, fun front old rest hleft hfront => ?_, fun bytes hleft => ?_⟩
  · have hfields := Json.insertField_of_not_mem hnew time
    rw [hrun, hleft, ← hfields]
    rfl
  · have hfields := Json.insertField_append_cons hfront old time rest
    rw [hrun, hleft, ← hfields]
    rfl
  · rw [hrun, hleft]
    rfl

/-- A buffer is asked for, but the engine leaves a document and an error; it has a field for the
time of its own, which is no number. -/
theorem run_annotated_ownField :
    let engine : Engine := { route := fun _ _ => pure (.ok (.error, .document
      ⟨[("code", .string "NoMap"), ("durationNanos", .string "none"), ("routes", .array [])]⟩)) }
    (({ engine } : Service).run 7 10 "1,1;2,2?format=flatbuffers").value =
      .ok (.error, .document
        ⟨[("code", .string "NoMap"), ("durationNanos", .int 7), ("routes", .array [])]⟩) := by
  intro engine
  let service : Service := { engine }
  let p : Parameters :=
    { coordinates := [⟨1.0, 1.0⟩, ⟨2.0, 2.0⟩], format := some .flatbuffers }
  have hparse : (service.parser.parse "1,1;2,2?format=flatbuffers").value =
      .ok (some p, "1,1;2,2?format=flatbuffers".utf8ByteSize) := rfl
  have hagree : p.Agree := ⟨by decide, fun list => by cases list <;> decide⟩
  exact (run_annotated service 7 10 hparse hagree rfl).2.1 [("code", .string "NoMap")]
    (.string "none") [("routes", .array [])] rfl (by decide)

end RoutingGateway.Service
