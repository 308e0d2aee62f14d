import AuthServer.Proofs.Run.Escalation
import AuthServer.Proofs.Token.Resigning

/-!
Tokens that are signed again, one request after another. However often that is done and whatever
keys do it, the last token is as good as the first: every verifier of the service makes the same of
both at every instant.
-/

namespace AuthServer

/-- The tokens that come of a token by asking, a number of times in a row, to sign it again. -/
inductive Service.Resigned (service : Service) (first : String) : Nat → String → Prop where
  | none : service.Resigned first 0 first
  | again {count : Nat} {presented last : String} {arrival : Arrival} {request : Request}
      {state : State} {values : List (String × String)}
      (earlier : service.Resigned first count presented)
      (leads : Destination.ofPath (Target.path request.target) = .guarded .reissue values)
      (presents : request.Presents presented)
      (responds : (Router.server.answer service arrival request state).Responds 200
        (tokenJson last)) : service.Resigned first (count + 1) last

theorem Request.Presents.exists_header {request : Request} {token : String}
    (presents : request.Presents token) :
    ∃ text, Bearer.token (some text) = .ok token ∧ ∀ authenticator now,
      request.caller authenticator now = authenticator.authenticate (some text) now := by
  rcases presents with ⟨value, text, header, readable, borne⟩
  exact ⟨text, borne, fun authenticator now => by simp only [caller, header, readable]⟩

namespace Service

variable {service : Service} {header : Option String} {start : Instant} {claims : Claims}

theorem issue_of_responds {arrival : Arrival} {request : Request} {state : State}
    {values : List (String × String)} {token : String}
    (leads : Destination.ofPath (Target.path request.target) = .guarded .reissue values)
    (responds : (Router.server.answer service arrival request state).Responds 200
      (tokenJson token)) :
    ∃ caller kid, request.caller service.authenticator arrival.now = .ok caller ∧
      service.authenticator.issue kid caller = .ok token := by
  have returns := responds.returns
  cases Router.server_effect service arrival request state with
  | nothing quiet => exact absurd returns (quiet.tokenless token)
  | registration asked user entered tokenless => exact absurd returns (tokenless token)
  | login account issued elsewhere => cases leads.symm.trans elsewhere
  | reissue values caller leads known issues unchanged =>
      rcases issues token returns with ⟨kid, issued⟩
      exact ⟨caller, kid, known, issued⟩

/-- A token in use for some claims: it carries them, and wherever it is presented the clock alone
decides. -/
structure Honours (service : Service) (token : String) (claims : Claims) : Prop where
  carries : Token.Carries token claims
  judged : ∀ header, Bearer.token header = .ok token →
    ∀ now, service.authenticator.authenticate header now = claims.during now

theorem honours_of_authenticate
    (accepted : service.authenticator.authenticate header start = .ok claims) {token : String}
    (borne : Bearer.token header = .ok token) : service.Honours token claims where
  carries := by
    rcases Authenticator.carries_of_authenticate accepted with ⟨same, borneAgain, carries⟩
    cases borne.symm.trans borneAgain
    exact carries
  judged other borneByOther now := by
    rw [Authenticator.authenticate_congr borne borneByOther]
    exact Authenticator.authenticate_eq_during accepted now

theorem honours_of_issue (genuine : service.authenticator.keys.ring.IsGenuine)
    (accepted : service.authenticator.authenticate header start = .ok claims) {kid token : String}
    (issued : service.authenticator.issue kid claims = .ok token) :
    service.Honours token claims where
  carries := Authenticator.carries_of_issue issued
  judged other borneByOther now := by
    rw [Authenticator.authenticate_congr (Authenticator.token_of_issue issued) borneByOther]
    exact Authenticator.authenticate_resigned genuine accepted issued now

theorem Honours.caller {token : String} (honours : service.Honours token claims)
    {request : Request} (presents : request.Presents token) (now : Instant) :
    request.caller service.authenticator now = claims.during now := by
  rcases presents.exists_header with ⟨text, borne, called⟩
  rw [called, honours.judged _ borne]

theorem Resigned.honours (genuine : service.authenticator.keys.ring.IsGenuine)
    (accepted : service.authenticator.authenticate header start = .ok claims)
    {first last : String} {count : Nat} (borne : Bearer.token header = .ok first)
    (resigned : service.Resigned first count last) : service.Honours last claims := by
  induction resigned with
  | none => exact honours_of_authenticate accepted borne
  | again earlier leads presents responds induction =>
      rcases issue_of_responds leads responds with ⟨caller, kid, known, issued⟩
      -- Only the clock could have spoken against the token that was presented, and it did not.
      rw [induction.caller presents] at known
      cases Claims.of_during known
      exact honours_of_issue genuine accepted issued

/-- Tokens that were signed again are interchangeable with the one they came of. Once a header is
accepted for some claims, at every instant it is accepted for them, expired or not yet valid; so is
every token that any key is made to sign for the claims; and so are all that admins get by
presenting the last one, which they can go on to do for as long as it lives. -/
theorem interchangeable (genuine : service.authenticator.keys.ring.IsGenuine)
    (accepted : service.authenticator.authenticate header start = .ok claims) :
    (∀ now, service.authenticator.authenticate header now = claims.during now) ∧
    (∀ kid again, service.authenticator.issue kid claims = .ok again →
      ∀ now, service.authenticator.authenticate header now =
        service.authenticator.authenticate (some ("Bearer " ++ again)) now) ∧
    ∀ first, Bearer.token header = .ok first →
      ∀ count last, service.Resigned first count last →
        (Token.Carries first claims ∧ Token.Carries last claims) ∧
        (∀ other, Bearer.token other = .ok last →
          ∀ now, service.authenticator.authenticate other now =
            service.authenticator.authenticate header now) ∧
        ∀ arrival request state values params again,
          Destination.ofPath (Target.path request.target) = .guarded .reissue values →
          Params.ofSegments values = .ok params → request.method = "GET" →
          request.Presents last → claims.during arrival.now = .ok claims →
          claims.hasRole .admin = true →
          service.authenticator.issue ((params.lookup "kid").getD "") claims = .ok again →
          (Router.server.answer service arrival request state).Responds 200 (tokenJson again) ∧
            tokenOfJson (Utf8.encode (tokenJson again)) = .ok again ∧
            service.Resigned first (count + 1) again := by
  have judged := Authenticator.authenticate_eq_during accepted
  refine ⟨judged, ?_, ?_⟩
  · intro kid again issued now
    rw [judged, Authenticator.authenticate_resigned genuine accepted issued]
  · intro first borne count last resigned
    have honours := resigned.honours genuine accepted borne
    refine ⟨⟨(honours_of_authenticate accepted borne).carries, honours.carries⟩, ?_, ?_⟩
    · intro other borneByOther now
      rw [honours.judged other borneByOther, judged]
    · intro arrival request state values params again leads decoded got presents lives admin issued
      have known := (honours.caller presents arrival.now).trans lives
      have responds : (Router.server.answer service arrival request state).Responds 200
          (tokenJson again) :=
        Router.responds_of_reissue leads decoded got known admin issued
      exact ⟨responds, tokenOfJson_tokenJson again, .again resigned leads presents responds⟩

end Service

/-! ## Any number of times -/

theorem Authenticator.isGenuine_ring_sample : sample.keys.ring.IsGenuine := by
  intro kid entry found
  cases List.mem_singleton.mp (mem_of_lookup found)
  exact isGenuine_sample

theorem Service.interchangeable_sample :
    ∃ token, sample.authenticator.issue "k" .sampleMinted = .ok token ∧
      ∀ count, ∃ last, sample.Resigned token count last ∧
        ∀ now, sample.authenticator.authenticate (some ("Bearer " ++ last)) now =
          Claims.sampleMinted.during now := by
  have loaded : sample.authenticator.keys.ring.find? "k" = some (.ofPrivate Rsa.mersenneKey) := rfl
  rcases Authenticator.exists_issue loaded rfl (by rw [Rsa.size_mersenneKey]; decide)
    .sampleMinted with ⟨token, issued⟩
  have accepted : sample.authenticator.authenticate (some ("Bearer " ++ token)) .epoch =
      .ok .sampleMinted := by
    rw [Authenticator.authenticate_of_genuine issued loaded loaded Authenticator.isGenuine_sample]
    exact Claims.verdict_of_acceptable Claims.acceptable_sampleMinted
  have borne : Bearer.token (some ("Bearer " ++ token)) = .ok token :=
    Authenticator.token_of_issue issued
  rcases interchangeable Authenticator.isGenuine_ring_sample accepted with ⟨judged, -, chains⟩
  have resigned : ∀ count, sample.Resigned token count token := by
    intro count
    induction count with
    | zero => exact .none
    | succ count induction =>
        rcases chains token borne count token induction with ⟨-, -, next⟩
        have presents := Request.presents_of_issue issued (Request.header?_sampleReissue token)
        have decoded : Params.ofSegments [("kid", "k")] = .ok [("kid", "k")] := by decide +kernel
        exact (next .sample (.sampleReissue token) .empty _ _ token
          (Request.leads_sampleReissue token) decoded rfl presents (by decide) (by decide)
          issued).2.2
  exact ⟨token, issued, fun count => ⟨token, resigned count, judged⟩⟩

end AuthServer
