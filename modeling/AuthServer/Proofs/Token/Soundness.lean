import AuthServer.Proofs.Token.Decoding
import AuthServer.Proofs.Token.Verification

/-!
What is known of an authorization header that was accepted, whoever wrote it: it carries a token
whose signature is genuine and whose claims, as they are returned, passed every check.
-/

namespace AuthServer

open Text

/-- An authorization header that consists of the scheme, in any case, and a token of three
segments. -/
def Bearer.Carries (text : String) (parts : Token.Segments) : Prop :=
  ∃ front scheme middle back,
    text.toList = front ++ scheme ++ ' ' :: middle ++
        (parts.header ++ '.' :: parts.payload ++ '.' :: parts.signature) ++ back ∧
      (∀ char ∈ front ++ middle ++ back, isBlank char = true) ∧
      scheme.map Char.toLower = "bearer".toList ∧
      '.' ∉ parts.header ∧ '.' ∉ parts.payload ∧ '.' ∉ parts.signature

/-- A token that an authenticator may take claims from: it is signed with the loaded key that its
own header names, and the claims are those of its payload. -/
structure Authenticator.Vouches (authenticator : Authenticator) (parts : Token.Segments)
    (claims : Claims) (now : Instant) : Prop where
  signed : ∃ header kid key signature,
    Base64.decode .urlSafe parts.header = some header ∧
      TokenHeader.ofJson header = .ok ⟨.rs256, some kid⟩ ∧
      authenticator.keys.verifying kid = .ok key ∧
      Base64.decode .urlSafe parts.signature = some signature ∧
      key.verify (Utf8.encode (String.ofList (parts.header ++ '.' :: parts.payload))) signature =
        true
  read : ∃ payload, Base64.decode .urlSafe parts.payload = some payload ∧
    Claims.ofJson payload = .ok claims
  acceptable : claims.Acceptable authenticator.issuer now

namespace Token

theorem of_document {segment : List Char} {bytes : List UInt8}
    (found : document segment = .ok bytes) : Base64.decode .urlSafe segment = some bytes :=
  of_elim found

theorem of_header {segment : List Char} {found : TokenHeader} (read : header segment = .ok found) :
    ∃ bytes, Base64.decode .urlSafe segment = some bytes ∧
      TokenHeader.ofJson bytes = .ok found := by
  rcases of_bind read with ⟨bytes, decoded, parsed⟩
  exact ⟨bytes, of_document decoded, of_mapError parsed⟩

theorem of_signingKid {token kid : String} (found : signingKid token = .ok kid) :
    ∃ parts, segments token = some parts ∧ header parts.header = .ok ⟨.rs256, some kid⟩ := by
  rcases of_bind found with ⟨parts, cut, found⟩
  rcases of_bind found with ⟨⟨algorithm, id⟩, read, found⟩
  refine ⟨parts, of_elim cut, ?_⟩
  by_cases known : algorithm = .rs256
  · simp only [known, ne_eq, not_true_eq_false, if_false] at found
    rw [read, known, of_elim found]
  · simp [known] at found

theorem of_checkSignature {parts : Segments} {key : Rsa.PublicKey}
    (passed : checkSignature parts key = .ok ()) :
    ∃ signature, Base64.decode .urlSafe parts.signature = some signature ∧
      key.verify (messageBytes parts.header parts.payload) signature = true := by
  rcases of_bind passed with ⟨signature, decoded, passed⟩
  refine ⟨signature, of_document decoded, ?_⟩
  split at passed
  · assumption
  · cases passed

theorem of_checkClaims {document : List UInt8} {claims : Claims} {issuer : String}
    (passed : checkClaims document claims issuer = .ok ()) :
    0 ≤ claims.expiresAt.toInt ∧ claims.issuer = issuer ∧ claims.roles.isEmpty = false := by
  unfold checkClaims at passed
  split at passed
  · cases passed
  split at passed
  · cases passed
  split at passed
  · cases passed
  rename_i sound same powerful
  rw [not_or] at sound
  exact ⟨by omega, by simpa using same, by simpa using powerful⟩

/-- Claims come out of a token only if its signature is genuine. The lifetime that was judged is
that of the claims, since the two readings of the payload agree. -/
theorem of_decode {token issuer : String} {key : Rsa.PublicKey} {now : Instant} {claims : Claims}
    (decoded : decode token key issuer now = .ok claims) :
    ∃ parts signature payload, segments token = some parts ∧
      Base64.decode .urlSafe parts.signature = some signature ∧
      key.verify (messageBytes parts.header parts.payload) signature = true ∧
      Base64.decode .urlSafe parts.payload = some payload ∧
      Claims.ofJson payload = .ok claims ∧ claims.Acceptable issuer now := by
  rcases reads_of_decode decoded with ⟨parts, header, payload, lifetime, reads, timely, examined⟩
  rcases of_examine examined with ⟨signaturePassed, read, claimsPassed⟩
  rcases of_checkSignature signaturePassed with ⟨signature, signatureFound, genuine⟩
  rcases of_checkClaims claimsPassed with ⟨expiry, sameIssuer, roles⟩
  rw [Lifetime.ofJson_of_claims read reads.lifetimeRead] at timely
  rcases Lifetime.check_eq_ok_iff.mp timely with ⟨alive, started⟩
  exact ⟨parts, signature, payload, reads.cut, signatureFound, genuine,
    of_document reads.payloadFound, read, ⟨sameIssuer, roles, expiry, started, alive⟩⟩

end Token

namespace Authenticator

theorem of_authenticate {authenticator : Authenticator} {header : Option String} {now : Instant}
    {claims : Claims} (accepted : authenticator.authenticate header now = .ok claims) :
    ∃ token kid key, Bearer.token header = .ok token ∧ Token.signingKid token = .ok kid ∧
      authenticator.keys.verifying kid = .ok key ∧
      Token.decode token key authenticator.issuer now = .ok claims := by
  rcases of_bind accepted with ⟨token, found, accepted⟩
  rcases of_bind accepted with ⟨kid, kidFound, accepted⟩
  rcases of_bind accepted with ⟨key, keyFound, decoded⟩
  exact ⟨token, kid, key, found, kidFound, of_mapError keyFound, decoded⟩

theorem authenticate_eq_decode {authenticator : Authenticator} {header : Option String}
    {token kid : String} {key : Rsa.PublicKey} (borne : Bearer.token header = .ok token)
    (named : Token.signingKid token = .ok kid) (loaded : authenticator.keys.verifying kid = .ok key)
    (now : Instant) :
    authenticator.authenticate header now = Token.decode token key authenticator.issuer now := by
  simp only [authenticate, borne, named, loaded, ok_bind, mapError_ok]

theorem authenticate_sound (authenticator : Authenticator) (header : Option String) (now : Instant)
    (claims : Claims) (accepted : authenticator.authenticate header now = .ok claims) :
    ∃ text parts, header = some text ∧ Bearer.Carries text parts ∧
      authenticator.Vouches parts claims now := by
  rcases of_authenticate accepted with ⟨token, kid, key, found, kidFound, loaded, decoded⟩
  rcases Bearer.of_token found with
    ⟨text, front, scheme, middle, back, present, layout, blanks, bearer, -, -⟩
  rcases Token.of_signingKid kidFound with ⟨parts, cut, headerRead⟩
  rcases Token.of_decode decoded with
    ⟨same, signature, payload, cutAgain, signatureFound, genuine, payloadFound, read, acceptable⟩
  rw [cut] at cutAgain
  cases cutAgain
  rcases Token.of_header headerRead with ⟨headerBytes, headerFound, headerParsed⟩
  rcases Token.of_segments cut with ⟨joined, payloadOne, signatureOne⟩
  rw [joined] at layout
  refine ⟨text, parts, present, ⟨front, scheme, middle, back, layout, blanks, bearer,
    Base64.dot_not_mem_of_decode headerFound, payloadOne, signatureOne⟩, ?_⟩
  exact {
    signed := ⟨headerBytes, kid, key, signature, headerFound, headerParsed, loaded,
      signatureFound, genuine⟩
    read := ⟨payload, payloadFound, read⟩
    acceptable := acceptable }

theorem authenticate_sound_sample :
    ∃ token parts, Bearer.Carries ("Bearer " ++ token) parts ∧
      sample.Vouches parts sampleClaims .epoch := by
  rcases exists_issue_sample with ⟨token, issued⟩
  rcases authenticate_sound sample (some ("Bearer " ++ token)) .epoch sampleClaims
    (authenticate_sample issued) with
    ⟨text, parts, same, carries, vouches⟩
  cases same
  exact ⟨token, parts, carries, vouches⟩

end Authenticator

end AuthServer
