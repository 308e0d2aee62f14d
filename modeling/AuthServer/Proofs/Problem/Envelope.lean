import AuthServer.Problem
import AuthServer.Proofs.Json.Record

/-!
The envelope of a problem. Whatever texts it holds, it is read back from its JSON unchanged, and the
list of fields is in it exactly if the problem is one of validation.
-/

namespace AuthServer

open Json

namespace FieldError

theorem fills (error : FieldError) (depth : Nat) :
    shape.Fills depth shape.start
      [("field", stringText error.field), ("error", stringText error.error)]
      ⟨error.field, error.error⟩ := by
  apply Shape.Fills.required rfl rfl fun rest _ => readText_written "a string" error.field rest
  apply Shape.Fills.required rfl rfl fun rest _ => readText_written "a string" error.error rest
  exact .done _

theorem read_written (error : FieldError) (depth : Nat) (levels : 1 < depth) (rest : List UInt8) :
    shape.read depth (Utf8.encode error.json ++ rest) = .ok (error, rest) :=
  Shape.read_written levels (fills error (depth - 1)) rfl rest

theorem startsValue_json (error : FieldError) : StartsValue error.json :=
  startsValue_objectText _

end FieldError

namespace Envelope

theorem readFields_written (fields : List FieldError) (depth : Nat) (levels : 2 < depth)
    (rest : List UInt8) :
    readOptional (readList FieldError.shape.read depth)
        (Utf8.encode (listText (fields.map FieldError.json)) ++ rest) =
      .ok (some fields, rest) := by
  have read := readList_written FieldError.shape.read depth (by omega) FieldError.json id fields
    (fun error _ => error.startsValue_json)
    (fun error _ rest _ => error.read_written (depth - 1) (by omega) rest) rest
  rw [List.map_id, encode_listText, List.cons_append] at read
  rw [encode_listText, List.cons_append]
  exact readOptional_of_first (by decide) (by decide) read

theorem fills (envelope : Envelope) (depth : Nat) (levels : 2 < depth) :
    shape.Fills depth shape.start
      (("error", stringText envelope.error) ::
        envelope.fields.elim [] fun fields =>
          [("fields", listText (fields.map FieldError.json))])
      ⟨envelope.error, envelope.fields.map some⟩ := by
  apply Shape.Fills.required rfl rfl fun rest _ => readText_written "a string" envelope.error rest
  cases envelope.fields with
  | none => exact .done _
  | some fields =>
      apply Shape.Fills.optional rfl rfl fun rest _ => readFields_written fields depth levels rest
      exact .done _

@[simp] theorem ofJson_json (envelope : Envelope) :
    ofJson (Utf8.encode envelope.json) = .ok envelope := by
  have complete : shape.finish ⟨envelope.error, envelope.fields.map some⟩ = .ok envelope := by
    rcases envelope with ⟨error, _ | fields⟩ <;> rfl
  have read := Shape.read_written (by decide : 1 < depthLimit)
    (fills envelope (depthLimit - 1) (by decide)) complete []
  exact readDocument_written (by simpa [json] using read)

end Envelope

namespace Problem

theorem isSome_fields_iff (problem : Problem) :
    problem.envelope.fields.isSome ↔ problem.status = 400 := by
  cases problem <;> simp [envelope, status]

theorem status_mem (problem : Problem) :
    problem.status ∈ [400, 401, 403, 404, 405, 409, 500] := by
  cases problem <;> simp [status]

end Problem

end AuthServer
