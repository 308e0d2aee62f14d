import AuthServer.Proofs.Token.Soundness

/-!
The claims that a token carries, whoever signed it: those that its payload reads as. An issued token
carries the claims it was issued for, and verification returns no others than the carried ones.
-/

namespace AuthServer

namespace Token

def Carries (token : String) (claims : Claims) : Prop :=
  ∃ parts payload, segments token = some parts ∧
    Base64.decode .urlSafe parts.payload = some payload ∧ Claims.ofJson payload = .ok claims

theorem Carries.unique {token : String} {claims others : Claims} (carries : Carries token claims)
    (carriesOthers : Carries token others) : claims = others := by
  rcases carries with ⟨parts, payload, cut, decoded, read⟩
  rcases carriesOthers with ⟨sameParts, samePayload, cutAgain, decodedAgain, readAgain⟩
  cases cut.symm.trans cutAgain
  cases decoded.symm.trans decodedAgain
  cases read.symm.trans readAgain
  rfl

theorem carries_encode {kid token : String} {claims : Claims} {key : Rsa.PrivateKey}
    (encoded : encode kid claims key = .ok token) : Carries token claims := by
  rcases segments_encode encoded with ⟨signature, cut, -⟩
  exact ⟨_, _, cut, Base64.decode_encode .., claims.ofJson_json⟩

end Token

namespace Authenticator

variable {authenticator : Authenticator}

theorem carries_of_issue {kid token : String} {claims : Claims}
    (issued : authenticator.issue kid claims = .ok token) : Token.Carries token claims := by
  rcases of_issue issued with ⟨entry, key, -, -, encoded⟩
  exact Token.carries_encode encoded

theorem carries_of_authenticate {header : Option String} {now : Instant} {claims : Claims}
    (accepted : authenticator.authenticate header now = .ok claims) :
    ∃ token, Bearer.token header = .ok token ∧ Token.Carries token claims := by
  rcases of_authenticate accepted with ⟨token, kid, key, found, -, -, decoded⟩
  rcases Token.of_decode decoded with ⟨parts, signature, payload, cut, -, -, payloadFound, read, -⟩
  exact ⟨token, found, parts, payload, cut, payloadFound, read⟩

end Authenticator

end AuthServer
