import AuthServer.Authenticator
import AuthServer.Proofs.Claims.Lifetime
import AuthServer.Proofs.Crypto.Rsa
import AuthServer.Proofs.Http.Message
import AuthServer.Proofs.Outcome
import AuthServer.Proofs.Token.Bearer
import AuthServer.Proofs.Token.Header
import AuthServer.Proofs.Token.Segments

/-!
What an authenticator makes of a token that another one issued. Whatever the claims are, they come
back unchanged or are refused for one of seven reasons, of which the first that applies is given.
-/

namespace AuthServer

open Text

def Token.isSignedBy (token : String) (key : Rsa.PublicKey) : Bool :=
  (segments token).any fun parts =>
    (Base64.decode .urlSafe parts.signature).any
      (key.verify (messageBytes parts.header parts.payload))

def Claims.verdict (claims : Claims) (isSigned : Bool) (issuer : String) (now : Instant) :
    Except AuthError Claims :=
  if claims.expiresAt.toInt < now.seconds then .error .expired
  else if now.seconds + 60 < claims.issuedAt.toInt then .error .notYetValid
  else if isSigned = false then .error .badSignature
  else if claims.expiresAt.toInt < 0 then .error .malformedToken
  else if claims.issuer ≠ issuer then .error .issuerMismatch
  else if claims.roles.isEmpty then .error .malformedToken
  else .ok claims

structure Claims.Acceptable (claims : Claims) (issuer : String) (now : Instant) : Prop where
  issuer : claims.issuer = issuer
  roles : claims.roles.isEmpty = false
  expiry : 0 ≤ claims.expiresAt.toInt
  started : claims.issuedAt.toInt - 60 ≤ now.seconds
  alive : now.seconds ≤ claims.expiresAt.toInt

theorem Claims.verdict_of_acceptable {claims : Claims} {issuer : String} {now : Instant}
    (acceptable : claims.Acceptable issuer now) : claims.verdict true issuer now = .ok claims := by
  rcases acceptable with ⟨same, powerful, plain, started, alive⟩
  rw [verdict, if_neg (by omega), if_neg (by omega), if_neg (by simp), if_neg (by omega),
    if_neg (by simp [same]), if_neg (by simp [powerful])]

namespace Token

theorem of_encode {kid token : String} {claims : Claims} {key : Rsa.PrivateKey}
    (encoded : encode kid claims key = .ok token) :
    ∃ header payload signature,
      header = Base64.encode .urlSafe (Utf8.encode (TokenHeader.json kid)) ∧
      payload = Base64.encode .urlSafe (Utf8.encode claims.json) ∧
      key.sign (messageBytes header payload) = some signature ∧
      token =
        String.ofList (message header payload ++ '.' :: Base64.encode .urlSafe signature) := by
  unfold encode at encoded
  cases signed : key.sign (messageBytes
      (Base64.encode .urlSafe (Utf8.encode (TokenHeader.json kid)))
      (Base64.encode .urlSafe (Utf8.encode claims.json))) with
  | none => simp [signed] at encoded
  | some signature =>
      simp only [signed, Except.ok.injEq] at encoded
      exact ⟨_, _, signature, rfl, rfl, signed, encoded.symm⟩

section Encoded

variable {kid token : String} {claims : Claims} {key : Rsa.PrivateKey}

theorem segments_encode (encoded : encode kid claims key = .ok token) :
    ∃ signature, segments token = some
        ⟨Base64.encode .urlSafe (Utf8.encode (TokenHeader.json kid)),
          Base64.encode .urlSafe (Utf8.encode claims.json),
          Base64.encode .urlSafe signature⟩ ∧
      key.sign (messageBytes (Base64.encode .urlSafe (Utf8.encode (TokenHeader.json kid)))
        (Base64.encode .urlSafe (Utf8.encode claims.json))) = some signature := by
  rcases of_encode encoded with ⟨header, payload, signature, rfl, rfl, signed, rfl⟩
  exact ⟨signature, segments_message _ (Base64.dot_not_mem_encode _) (Base64.dot_not_mem_encode _),
    signed⟩

theorem document_encode (bytes : List UInt8) :
    document (Base64.encode .urlSafe bytes) = .ok bytes := by
  rw [document, Base64.decode_encode]
  rfl

theorem header_encode (kid : String) :
    header (Base64.encode .urlSafe (Utf8.encode (TokenHeader.json kid))) =
      .ok ⟨.rs256, some kid⟩ := by
  simp only [header, document_encode, ok_bind, TokenHeader.ofJson_json, mapError_ok]

theorem exists_encode (kid : String) (claims : Claims) (key : Rsa.PrivateKey)
    (size : 62 ≤ key.publicKey.size) : ∃ token, encode kid claims key = .ok token := by
  unfold encode
  cases signed : key.sign (messageBytes
      (Base64.encode .urlSafe (Utf8.encode (TokenHeader.json kid)))
      (Base64.encode .urlSafe (Utf8.encode claims.json))) with
  | none =>
      have some := key.isSome_sign size (messageBytes
        (Base64.encode .urlSafe (Utf8.encode (TokenHeader.json kid)))
        (Base64.encode .urlSafe (Utf8.encode claims.json)))
      simp [signed] at some
  | some signature => exact ⟨_, by simp only [signed]; rfl⟩

theorem signingKid_encode (encoded : encode kid claims key = .ok token) :
    signingKid token = .ok kid := by
  rcases segments_encode encoded with ⟨signature, cut, -⟩
  simp only [signingKid, cut, Option.elim_some, ok_bind, header_encode]
  rfl

theorem decode_encode (encoded : encode kid claims key = .ok token) (verifier : Rsa.PublicKey)
    (issuer : String) (now : Instant) :
    decode token verifier issuer now =
      claims.verdict (isSignedBy token verifier) issuer now := by
  rcases segments_encode encoded with ⟨signature, cut, -⟩
  simp only [decode, cut, Option.elim_some, ok_bind, header_encode, document_encode,
    Lifetime.ofJson_json, mapError_ok, Lifetime.check, Lifetime.leeway, Claims.verdict]
  by_cases expired : claims.expiresAt.toInt < now.seconds
  · simp [expired]
  by_cases early : now.seconds + 60 < claims.issuedAt.toInt
  · simp [expired, early]
  simp only [expired, early, if_false, ok_bind, checkSignature, document_encode, isSignedBy, cut,
    Option.any_some, Base64.decode_encode]
  cases verifier.verify _ signature
  · simp
  · simp only [ne_eq, not_true_eq_false, if_false, if_true, Bool.true_eq_false, pure_eq_ok, ok_bind,
      Claims.ofJson_json, mapError_ok, checkClaims, RegisteredClaims.areValid_json]
    by_cases negative : claims.expiresAt.toInt < 0
    · simp [negative]
    by_cases foreign : claims.issuer = issuer
    · by_cases powerless : claims.roles.isEmpty = true
      · simp [negative, foreign, powerless]
      · simp [negative, foreign, powerless]
    · simp [negative, foreign]

theorem mem_encode (encoded : encode kid claims key = .ok token) :
    ∀ char ∈ token.toList, Base64.Alphabet.urlSafe.Contains char ∨ char = '.' := by
  rcases of_encode encoded with ⟨header, payload, signature, rfl, rfl, -, rfl⟩
  have segment := Base64.contains_of_mem_encode .urlSafe
  simp only [String.toList_ofList, message, List.mem_append, List.mem_cons]
  rintro char ((member | rfl | member) | rfl | member)
  · exact .inl (segment _ _ member)
  · exact .inr rfl
  · exact .inl (segment _ _ member)
  · exact .inr rfl
  · exact .inl (segment _ _ member)

theorem toList_encode (encoded : encode kid claims key = .ok token) :
    token.toList ≠ [] ∧ IsTrimmed token.toList := by
  constructor
  · rcases of_encode encoded with ⟨header, payload, signature, rfl, rfl, -, rfl⟩
    simp [message]
  · apply isTrimmed_of_not_blank
    intro char member
    rcases mem_encode encoded char member with contained | rfl
    · exact Base64.not_blank_of_contains contained
    · decide

theorem isPrintable_encode (encoded : encode kid claims key = .ok token) :
    ∀ char ∈ ("Bearer " ++ token).toList, IsPrintable char := by
  intro char member
  rw [String.toList_append, List.mem_append] at member
  rcases member with scheme | member
  · have printable : ("Bearer ".toList.all fun char => 0x20 ≤ char.toNat && char.toNat ≤ 0x7E) =
        true := by decide
    simpa [IsPrintable] using List.all_eq_true.mp printable char scheme
  rcases mem_encode encoded char member with contained | rfl
  · have range := Base64.toNat_of_contains contained
    unfold IsPrintable
    omega
  · unfold IsPrintable
    decide

end Encoded

end Token

namespace KeyEntry

/-- The public half of a key accepts what the private half signs, if there is a private half. -/
def IsGenuine (entry : KeyEntry) : Prop :=
  ∀ key, entry.signing = some key → ∀ message signature,
    key.sign message = some signature → entry.verifying.verify message signature = true

theorem isGenuine_ofPrivate {key : Rsa.PrivateKey} (sound : key.IsSound) :
    (ofPrivate key).IsGenuine := by
  intro same isKey message signature signed
  cases isKey
  exact sound.verify_sign signed

end KeyEntry

namespace Authenticator

theorem of_issue {authenticator : Authenticator} {kid token : String} {claims : Claims}
    (issued : authenticator.issue kid claims = .ok token) :
    ∃ entry key, authenticator.keys.ring.find? kid = some entry ∧ entry.signing = some key ∧
      Token.encode kid claims key = .ok token := by
  unfold issue KeyStore.signing at issued
  cases found : authenticator.keys.ring.find? kid with
  | none => simp [found] at issued
  | some entry =>
      cases signs : entry.signing with
      | none => simp [found, signs] at issued
      | some key =>
          simp only [found, Option.bind_some, signs] at issued
          exact ⟨entry, key, rfl, signs, issued⟩

theorem exists_issue {authenticator : Authenticator} {kid : String} {entry : KeyEntry}
    {key : Rsa.PrivateKey} (loaded : authenticator.keys.ring.find? kid = some entry)
    (signs : entry.signing = some key) (size : 62 ≤ key.publicKey.size) (claims : Claims) :
    ∃ token, authenticator.issue kid claims = .ok token := by
  rcases Token.exists_encode kid claims key size with ⟨token, encoded⟩
  refine ⟨token, ?_⟩
  simp only [issue, KeyStore.signing, loaded, Option.bind_some, signs, encoded]

theorem isSignedBy_issued {authenticator : Authenticator} {kid token : String} {claims : Claims}
    {entry : KeyEntry} (issued : authenticator.issue kid claims = .ok token)
    (loaded : authenticator.keys.ring.find? kid = some entry) (genuine : entry.IsGenuine) :
    Token.isSignedBy token entry.verifying = true := by
  rcases of_issue issued with ⟨same, key, found, signs, encoded⟩
  rw [loaded] at found
  cases found
  rcases Token.segments_encode encoded with ⟨signature, cut, signed⟩
  simp only [Token.isSignedBy, cut, Option.any_some, Base64.decode_encode]
  exact genuine key signs _ _ signed

theorem authenticate_of_issue {issuing : Authenticator} {kid token : String} {claims : Claims}
    (issued : issuing.issue kid claims = .ok token) (verifying : Authenticator) (now : Instant) :
    verifying.authenticate (some ("Bearer " ++ token)) now =
      match verifying.keys.verifying kid with
      | .error _ => .error (.unknownKey kid)
      | .ok key => claims.verdict (Token.isSignedBy token key) verifying.issuer now := by
  rcases of_issue issued with ⟨entry, key, found, signs, encoded⟩
  rcases Token.toList_encode encoded with ⟨notEmpty, trimmed⟩
  simp only [authenticate, Bearer.token_of_isTrimmed notEmpty trimmed, ok_bind,
    Token.signingKid_encode encoded]
  cases verifying.keys.verifying kid with
  | error error => rfl
  | ok verifier => simp only [mapError_ok, ok_bind, Token.decode_encode encoded]

theorem authenticate_of_genuine {issuing verifying : Authenticator} {kid token : String}
    {claims : Claims} {entry : KeyEntry} (issued : issuing.issue kid claims = .ok token)
    (loaded : issuing.keys.ring.find? kid = some entry)
    (shared : verifying.keys.ring.find? kid = some entry) (genuine : entry.IsGenuine)
    (now : Instant) :
    verifying.authenticate (some ("Bearer " ++ token)) now =
      claims.verdict true verifying.issuer now := by
  rw [authenticate_of_issue issued, KeyStore.verifying, shared]
  simp only [isSignedBy_issued issued loaded genuine]

/-- What one authenticator makes of a token that another one issued. Where the two share the key,
acceptable claims make the round trip. -/
theorem authenticate_issued (issuing verifying : Authenticator) (kid : String) (claims : Claims)
    (now : Instant) (token : String) (issued : issuing.issue kid claims = .ok token) :
    verifying.authenticate (some ("Bearer " ++ token)) now =
        (match verifying.keys.verifying kid with
        | .error _ => .error (.unknownKey kid)
        | .ok key => claims.verdict (Token.isSignedBy token key) verifying.issuer now) ∧
      ∀ entry, issuing.keys.ring.find? kid = some entry →
        verifying.keys.ring.find? kid = some entry → entry.IsGenuine →
        verifying.authenticate (some ("Bearer " ++ token)) now =
            claims.verdict true verifying.issuer now ∧
          (claims.Acceptable verifying.issuer now →
            verifying.authenticate (some ("Bearer " ++ token)) now = .ok claims) := by
  refine ⟨authenticate_of_issue issued verifying now, ?_⟩
  intro entry loaded shared genuine
  have judged := authenticate_of_genuine issued loaded shared genuine now
  refine ⟨judged, fun acceptable => ?_⟩
  rw [judged, Claims.verdict_of_acceptable acceptable]

def ofKey (kid issuer : String) (key : Rsa.PrivateKey) (lifetime : Span) : Authenticator where
  keys := {
    ring := ⟨[(kid, .ofPrivate key)], by simp⟩
    activeKid := kid
    active_signs := by simp [KeyRing.find?, KeyEntry.ofPrivate] }
  issuer := issuer
  lifetime := lifetime

def sample : Authenticator := ofKey "k" "i" Rsa.mersenneKey .longest

def sampleClaims : Claims := ⟨"s", "i", 0, 1, ⟨false, true⟩, "n"⟩

theorem acceptable_sampleClaims : sampleClaims.Acceptable sample.issuer .epoch := by
  constructor <;> decide

theorem isGenuine_sample : (KeyEntry.ofPrivate Rsa.mersenneKey).IsGenuine :=
  KeyEntry.isGenuine_ofPrivate Rsa.isSound_mersenneKey

theorem exists_issue_sample : ∃ token, sample.issue "k" sampleClaims = .ok token :=
  exists_issue rfl rfl (by rw [Rsa.size_mersenneKey]; decide) sampleClaims

theorem authenticate_sample {token : String} (issued : sample.issue "k" sampleClaims = .ok token) :
    sample.authenticate (some ("Bearer " ++ token)) .epoch = .ok sampleClaims := by
  rw [authenticate_of_genuine issued rfl rfl isGenuine_sample,
    Claims.verdict_of_acceptable acceptable_sampleClaims]

theorem authenticate_issued_sample :
    ∃ token, sample.issue "k" sampleClaims = .ok token ∧
      sample.authenticate (some ("Bearer " ++ token)) .epoch = .ok sampleClaims := by
  rcases exists_issue_sample with ⟨token, issued⟩
  rcases authenticate_issued sample sample "k" sampleClaims .epoch token issued with
    ⟨-, sharing⟩
  exact ⟨token, issued, (sharing _ rfl rfl isGenuine_sample).2 acceptable_sampleClaims⟩

end Authenticator

end AuthServer
