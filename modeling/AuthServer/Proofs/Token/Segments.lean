import AuthServer.Proofs.Encoding.Base64
import AuthServer.Proofs.Text.Blank
import AuthServer.Token.Codec

/-!
How a token is cut into its segments.
-/

namespace AuthServer

open Text

namespace Base64

theorem ne_dot_of_contains {char : Char} (contained : Alphabet.urlSafe.Contains char) :
    char ≠ '.' := by
  rintro rfl
  have range := toNat_of_contains contained
  simp only [show '.'.toNat = 46 from rfl] at range
  omega

theorem not_blank_of_contains {char : Char} (contained : Alphabet.urlSafe.Contains char) :
    isBlank char = false := by
  have range := toNat_of_contains contained
  simp only [isBlank, Bool.or_eq_false_iff, Bool.and_eq_false_imp, decide_eq_true_eq,
    decide_eq_false_iff_not, beq_eq_false_iff_ne]
  omega

theorem dot_not_mem_encode (bytes : List UInt8) : '.' ∉ encode .urlSafe bytes :=
  fun member => ne_dot_of_contains (contains_of_mem_encode .urlSafe bytes _ member) rfl

theorem dot_not_mem_of_decode {chars : List Char} {bytes : List UInt8}
    (decoded : decode .urlSafe chars = some bytes) : '.' ∉ chars :=
  fun member => ne_dot_of_contains (contains_of_decode .urlSafe decoded _ member) rfl

end Base64

namespace Token

theorem splitLast_of_not_mem {after : List Char} (absent : '.' ∉ after) (before : List Char) :
    splitLast (before ++ '.' :: after) = some (before, after) := by
  have split : splitOnce '.' (after.reverse ++ '.' :: before.reverse) =
      some (after.reverse, before.reverse) :=
    splitOnce_of_not_mem (by simpa using absent) before.reverse
  simp [splitLast, split]

theorem of_splitLast {chars before after : List Char}
    (split : splitLast chars = some (before, after)) :
    chars = before ++ '.' :: after ∧ '.' ∉ after := by
  unfold splitLast at split
  cases reversed : splitOnce '.' chars.reverse with
  | none => simp [reversed] at split
  | some pair =>
      simp only [reversed, Option.map_some, Option.some.injEq, Prod.mk.injEq] at split
      rcases split with ⟨rfl, rfl⟩
      rcases of_splitOnce reversed with ⟨joined, absent⟩
      refine ⟨?_, by simpa using absent⟩
      rw [← List.reverse_reverse chars, joined]
      simp

theorem segments_message (header : List Char) {payload signature : List Char}
    (payloadOne : '.' ∉ payload) (signatureOne : '.' ∉ signature) :
    segments (String.ofList (message header payload ++ '.' :: signature)) =
      some ⟨header, payload, signature⟩ := by
  simp only [segments, String.toList_ofList, splitLast_of_not_mem signatureOne, message,
    Option.bind_eq_bind, Option.bind_some, splitLast_of_not_mem payloadOne]
  rfl

theorem of_segments {token : String} {parts : Segments} (cut : segments token = some parts) :
    token.toList = message parts.header parts.payload ++ '.' :: parts.signature ∧
      '.' ∉ parts.payload ∧ '.' ∉ parts.signature := by
  unfold segments at cut
  cases outer : splitLast token.toList with
  | none => simp [outer] at cut
  | some pair =>
      cases inner : splitLast pair.1 with
      | none => simp [outer, inner] at cut
      | some innerPair =>
          simp only [outer, inner, Option.bind_eq_bind, Option.bind_some] at cut
          cases cut
          rcases of_splitLast outer with ⟨joined, signatureOne⟩
          rcases of_splitLast inner with ⟨innerJoined, payloadOne⟩
          exact ⟨by rw [joined, innerJoined]; rfl, payloadOne, signatureOne⟩

end Token

end AuthServer
