import AuthServer.Proofs.Token.Failure
import AuthServer.Proofs.Token.Soundness

/-!
What the clock has to say about a token. It is asked once, with the lifetime that the payload claims
for itself, and before anything else is checked: so a token has expired or is too young whatever
else is wrong with it, and for no other reason.
-/

namespace AuthServer

open Text

namespace Token

variable {token issuer : String} {key : Rsa.PublicKey} {now : Instant} {parts : Segments}
variable {header : TokenHeader} {payload : List UInt8} {lifetime : Lifetime}

theorem ReadsAs.decode_eq_error_iff (reads : ReadsAs token parts header payload lifetime)
    {error : AuthError} (timely : ¬error.IsTimeless) :
    decode token key issuer now = .error error ↔ lifetime.check now = .error error := by
  rw [reads.decode_eq]
  cases lifetime.check now with
  | error other => simp
  | ok _ =>
      constructor
      · intro failed
        exact absurd (failsWith_examine parts header payload key issuer error failed) timely
      · nofun

end Token

/-! ## Tokens of any three segments -/

namespace Token

variable {payload signature : String}

theorem segments_join (header : String) (payloadOne : '.' ∉ payload.toList)
    (signatureOne : '.' ∉ signature.toList) :
    segments (header ++ "." ++ payload ++ "." ++ signature) =
      some ⟨header.toList, payload.toList, signature.toList⟩ := by
  have joined : header ++ "." ++ payload ++ "." ++ signature =
      String.ofList (message header.toList payload.toList ++ '.' :: signature.toList) := by
    apply String.toList_inj.mp
    simp [message]
  rw [joined, segments_message _ payloadOne signatureOne]

theorem signingKid_of_header {token kid : String} {parts : Segments}
    (cut : segments token = some parts)
    (read : Token.header parts.header = .ok ⟨.rs256, some kid⟩) : signingKid token = .ok kid := by
  simp only [signingKid, cut, Option.elim_some, ok_bind, read]
  rfl

end Token

namespace Bearer

/-- Of a signature, which may be any text, only the blanks at its end are lost in a header. -/
theorem token_join {header : String} (plain : ∀ char ∈ header.toList, isBlank char = false)
    (payload signature : String) :
    Bearer.token (some ("Bearer " ++ (header ++ "." ++ payload ++ "." ++ signature))) =
      .ok (header ++ "." ++ payload ++ "." ++ String.ofList (trimBack signature.toList)) := by
  rcases trimBack_spec signature.toList with ⟨back, split, blank, last⟩
  let kept := header ++ "." ++ payload ++ "." ++ String.ofList (trimBack signature.toList)
  have chars : kept.toList =
      header.toList ++ '.' :: (payload.toList ++ '.' :: trimBack signature.toList) := by
    simp [kept]
  have whole : ("Bearer " ++ (header ++ "." ++ payload ++ "." ++ signature)).toList =
      ("Bearer " ++ kept).toList ++ back := by
    simp only [kept, String.toList_append, String.toList_ofList, List.append_assoc, ← split]
  have front : kept.toList.head? = some (header.toList.head?.getD '.') := by
    rw [chars, List.head?_append]
    cases header.toList.head? <;> rfl
  have rear : kept.toList.getLast? = some ((trimBack signature.toList).getLast?.getD '.') := by
    simp [chars, List.getLast?_append, List.getLast?_cons]
  have edges : IsTrimmed kept.toList := by
    constructor
    · rintro char first
      cases front.symm.trans first
      cases outer : header.toList.head? with
      | none => decide
      | some char => exact plain char (List.mem_of_head? outer)
    · rintro char final
      cases rear.symm.trans final
      cases outer : (trimBack signature.toList).getLast? with
      | none => decide
      | some char => exact last char outer
  have notEmpty : kept.toList ≠ [] := by simp [chars]
  rw [← token_of_isTrimmed notEmpty edges]
  apply token_congr
  rw [whole]
  exact trimChars_append blank _

end Bearer

/-! ## Main result -/

namespace Authenticator

/-- A token of a loaded key whose payload tells its lifetime has expired or is not yet valid exactly
if the lifetime says so: neither its signature, which may be any text, nor the rest of its claims
has a part in it. -/
theorem temporal_verdict (authenticator : Authenticator) (now : Instant)
    {header payload signature kid : String} {key : Rsa.PublicKey} {document : List UInt8}
    {lifetime : Lifetime} (signatureOne : '.' ∉ signature.toList)
    (named : Token.signingKid (header ++ "." ++ payload ++ "." ++ signature) = .ok kid)
    (loaded : authenticator.keys.verifying kid = .ok key)
    (decoded : Base64.decode .urlSafe payload.toList = some document)
    (read : Lifetime.ofJson document = .ok lifetime) :
    (authenticator.authenticate
        (some ("Bearer " ++ (header ++ "." ++ payload ++ "." ++ signature))) now =
          .error .expired ↔
      lifetime.expiresAt.toInt < now.seconds) ∧
    (authenticator.authenticate
        (some ("Bearer " ++ (header ++ "." ++ payload ++ "." ++ signature))) now =
          .error .notYetValid ↔
      now.seconds ≤ lifetime.expiresAt.toInt ∧
        now.seconds + 60 < lifetime.issuedAt.toInt) := by
  have payloadOne := Base64.dot_not_mem_of_decode decoded
  rcases Token.of_signingKid named with ⟨parts, cut, headerRead⟩
  cases (Token.segments_join header payloadOne signatureOne).symm.trans cut
  rcases Token.of_header headerRead with ⟨headerBytes, headerFound, -⟩
  have plain : ∀ char ∈ header.toList, isBlank char = false := fun char member =>
    Base64.not_blank_of_contains (Base64.contains_of_decode .urlSafe headerFound char member)
  -- The token in the header lacks the blanks at the end of the signature.
  let kept := String.ofList (trimBack signature.toList)
  have keptOne : '.' ∉ kept.toList := by
    rcases trimBack_spec signature.toList with ⟨back, split, -⟩
    rw [String.toList_ofList]
    exact fun member => signatureOne (split ▸ List.mem_append_left back member)
  have reads : Token.ReadsAs (header ++ "." ++ payload ++ "." ++ kept)
      ⟨header.toList, payload.toList, kept.toList⟩ ⟨.rs256, some kid⟩ document lifetime := {
    cut := Token.segments_join header payloadOne keptOne
    headerRead
    payloadFound := by
      rw [Token.document, decoded]
      rfl
    lifetimeRead := read }
  rw [authenticate_eq_decode (Bearer.token_join plain payload signature)
    (Token.signingKid_of_header reads.cut headerRead) loaded now]
  constructor
  · rw [← Lifetime.check_eq_expired_iff]
    exact reads.decode_eq_error_iff fun timeless => timeless.not_expired rfl
  · rw [← Lifetime.check_eq_notYetValid_iff]
    exact reads.decode_eq_error_iff fun timeless => timeless.not_notYetValid rfl

theorem temporal_verdict_sample :
    ∃ header, Token.signingKid (header ++ "." ++ "WzAsMV0" ++ "." ++ "no signature") = .ok "k" ∧
      sample.authenticate
        (some ("Bearer " ++ (header ++ "." ++ "WzAsMV0" ++ "." ++ "no signature"))) .last =
          .error .expired := by
  let header := String.ofList (Base64.encode .urlSafe (Utf8.encode (TokenHeader.json "k")))
  have single : '.' ∉ "no signature".toList := by decide
  have decoded : Base64.decode .urlSafe "WzAsMV0".toList =
      some [0x5B, 0x30, 0x2C, 0x31, 0x5D] := by
    decide +kernel
  have read : Lifetime.ofJson [0x5B, 0x30, 0x2C, 0x31, 0x5D] = .ok ⟨0, 1⟩ := by decide +kernel
  have named : Token.signingKid (header ++ "." ++ "WzAsMV0" ++ "." ++ "no signature") =
      .ok "k" := by
    apply Token.signingKid_of_header
      (Token.segments_join header (Base64.dot_not_mem_of_decode decoded) single)
    rw [String.toList_ofList]
    exact Token.header_encode "k"
  refine ⟨header, named, ?_⟩
  exact (temporal_verdict sample .last single named rfl decoded read).1.mpr (by decide)

end Authenticator

end AuthServer
