import AuthServer.Proofs.Json.Record
import AuthServer.Token.Header

/-!
The header of a signed token is read back with its algorithm and its key id, whatever characters
the key id has.
-/

namespace AuthServer

open Json

namespace Algorithm

@[simp] theorem ofName?_name (algorithm : Algorithm) :
    choice.ofName? algorithm.name = some algorithm := by
  cases algorithm <;> decide +kernel

end Algorithm

namespace TokenHeader

theorem fills_json (kid : String) (depth : Nat) :
    shape.Fills depth shape.start
      [("typ", stringText "JWT"), ("alg", stringText "RS256"), ("kid", stringText kid)]
      ⟨some .rs256, some (some kid), ["typ"]⟩ := by
  have kind : ∀ rest, AfterValue rest →
      (checkedField (fun _ => readText "a string") "typ").read depth
          (Utf8.encode (stringText "JWT") ++ rest) =
        .ok (fun draft => { draft with checked := "typ" :: draft.checked }, rest) := by
    intro rest _
    simp only [checkedField, readOptional_written "a string" "JWT" rest]
  have algorithm : ∀ rest, Algorithm.choice.read depth (Utf8.encode (stringText "RS256") ++ rest) =
      .ok (.rs256, rest) :=
    Choice.read_written (Algorithm.ofName?_name .rs256) depth
  apply Shape.Fills.field rfl rfl kind
  apply Shape.Fills.required rfl rfl fun rest _ => algorithm rest
  apply Shape.Fills.required rfl rfl fun rest _ => readOptional_written "a string" kid rest
  exact .done _

@[simp] theorem ofJson_json (kid : String) :
    ofJson (Utf8.encode (json kid)) = .ok ⟨.rs256, some kid⟩ := by
  apply readDocument_written
  rw [json, encode_objectText, read, skipBlanks_of_not_blank (by decide)]
  simp only [enter, if_neg (show ¬depthLimit ≤ 1 by decide),
    Shape.readObject_written (fills_json kid (depthLimit - 1)) rfl [], Option.getD_some]

end TokenHeader

end AuthServer
