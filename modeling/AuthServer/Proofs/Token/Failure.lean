import AuthServer.Proofs.Token.Decoding

/-!
Verifying a token fails for reasons that are the caller's own, never for one that is the server's:
whatever stands in an authorization header, it cannot be reported as an internal failure.
-/

namespace AuthServer

def AuthError.IsCallersOwn (error : AuthError) : Prop :=
  error.isCredentialFailure = true

/-- A failure of the caller's own that the clock has no part in. -/
structure AuthError.IsTimeless (error : AuthError) : Prop where
  own : error.IsCallersOwn
  not_expired : error ≠ .expired
  not_notYetValid : error ≠ .notYetValid

namespace Token

theorem failsWith_header (segment : List Char) :
    FailsWith AuthError.IsCallersOwn (header segment) :=
  .bind (.elim rfl) fun _ => .mapError fun _ => rfl

theorem failsWith_signingKid (token : String) :
    FailsWith AuthError.IsCallersOwn (signingKid token) := by
  refine .bind (.elim rfl) fun parts => .bind (failsWith_header parts.header) fun header => ?_
  split
  · exact .error rfl
  · exact .elim rfl

theorem failsWith_lifetimeCheck (lifetime : Lifetime) (now : Instant) :
    FailsWith AuthError.IsCallersOwn (lifetime.check now) := by
  unfold Lifetime.check
  split
  · exact .error rfl
  split
  · exact .error rfl
  · exact .ok ()

theorem failsWith_checkSignature (parts : Segments) (key : Rsa.PublicKey) :
    FailsWith AuthError.IsTimeless (checkSignature parts key) := by
  refine .bind (.elim ⟨rfl, nofun, nofun⟩) fun signature => ?_
  split
  · exact .ok ()
  · exact .error ⟨rfl, nofun, nofun⟩

theorem failsWith_checkClaims (document : List UInt8) (claims : Claims) (issuer : String) :
    FailsWith AuthError.IsTimeless (checkClaims document claims issuer) := by
  unfold checkClaims
  split
  · exact .error ⟨rfl, nofun, nofun⟩
  split
  · exact .error ⟨rfl, nofun, nofun⟩
  split
  · exact .error ⟨rfl, nofun, nofun⟩
  · exact .ok ()

theorem failsWith_examine (parts : Segments) (header : TokenHeader) (payload : List UInt8)
    (key : Rsa.PublicKey) (issuer : String) :
    FailsWith AuthError.IsTimeless (examine parts header payload key issuer) := by
  unfold examine
  split
  · exact .error ⟨rfl, nofun, nofun⟩
  · exact .bind (failsWith_checkSignature parts key) fun _ =>
      .bind (.mapError fun _ => ⟨rfl, nofun, nofun⟩) fun claims =>
      .bind (failsWith_checkClaims payload claims issuer) fun _ => .ok claims

theorem failsWith_decode (token : String) (key : Rsa.PublicKey) (issuer : String) (now : Instant) :
    FailsWith AuthError.IsCallersOwn (decode token key issuer now) :=
  .bind (.elim rfl) fun parts => .bind (failsWith_header parts.header) fun header =>
    .bind (.elim rfl) fun payload => .bind (.mapError fun _ => rfl) fun lifetime =>
    .bind (failsWith_lifetimeCheck lifetime now) fun _ =>
    (failsWith_examine parts header payload key issuer).mono fun _ timeless => timeless.own

end Token

theorem Bearer.failsWith_token (header : Option String) :
    FailsWith AuthError.IsCallersOwn (Bearer.token header) := by
  unfold Bearer.token
  split
  · exact .error rfl
  · exact .error rfl
  split
  · exact .error rfl
  dsimp only
  split
  · exact .ok _
  · exact .error rfl

namespace Authenticator

theorem failsWith_authenticate (authenticator : Authenticator) (header : Option String)
    (now : Instant) : FailsWith AuthError.IsCallersOwn (authenticator.authenticate header now) :=
  .bind (Bearer.failsWith_token header) fun token => .bind (Token.failsWith_signingKid token)
    fun _ => .bind (.mapError fun _ => rfl) fun key =>
    Token.failsWith_decode token key authenticator.issuer now

end Authenticator

end AuthServer
