import AuthServer.Proofs.Http.Target
import AuthServer.Proofs.Routes.Gatekeeping
import AuthServer.Proofs.Run.Account
import AuthServer.Proofs.Users.Codec

/-!
A registration makes an account that works ever after: whatever happens in between, its owner logs
in under every spelling of the address, and is known by the token.
-/

namespace AuthServer

namespace Destination

theorem ofPath_account (bytes : List UInt8) :
    ofPath (Target.path ("/users/" ++ Uuid.ofBytes bytes)) =
      .guarded .account [("user_id", Uuid.ofBytes bytes)] := by
  have other : ∀ name : String, '-' ∉ name.toList → Uuid.ofBytes bytes ≠ name := by
    intro name absent same
    exact absent (same ▸ Uuid.hyphen_mem_ofBytes bytes)
  rw [ofPath, (Uuid.isPlain_ofBytes bytes).segments?_users, Option.elim_some, ofSegments,
    if_pos rfl, ofUsers, if_neg (other "login" (by decide)), if_neg (other "register" (by decide)),
    if_neg (other "me" (by decide)), if_neg (other "" (by decide))]

end Destination

namespace Service

/-- What was registered is an account ever after, as long as its id is not drawn again. The password
gets a token under every spelling of the address and no other password does, and with the token its
owner is shown itself and the user that the registration was answered with. Whoever reads the bodies
gets that user, that token and the owner of the account. -/
theorem registration_lasts {service : Service} {start state : State} {past later : List Event}
    {registration : Event} {lifetime : Int} {asked : RegisterRequest} {body : String}
    (order : service.InOrder lifetime) (consistent : start.directory.IsConsistent)
    (run : Run service start (later ++ registration :: past) state)
    (unused : registration.arrival.freshId ∉ freshIds later)
    (registers : registration.request.Registers asked)
    (created : registration.answer.Responds 201 body) :
    ∃ user : User, body = user.json ∧ User.ofJson (Utf8.encode body) = .ok user ∧
      user.id = registration.arrival.freshId ∧
      user.name = Text.trim asked.name ∧ user.email = Email.normalize asked.email ∧
      user.roles = .ofList [.user] ∧
      (∀ bytes, registration.arrival.freshId = Uuid.ofBytes bytes →
        Destination.ofPath (Target.path ("/users/" ++ user.id)) =
            .guarded .account [("user_id", user.id)] ∧
          Target.percentDecode? user.id = some user.id) ∧
      ∀ arrival request login, request.AsksLogin login →
        Email.normalize login.email = Email.normalize asked.email →
        (login.password = asked.password → 0 ≤ arrival.now.seconds + lifetime →
          ∃ token claims,
            (Router.server.answer service arrival request state).Responds 200 (tokenJson token) ∧
            tokenOfJson (Utf8.encode (tokenJson token)) = .ok token ∧
            service.authenticator.IsSession ⟨user.id, .ofList [.user], Text.trim asked.name⟩
              arrival.now lifetime token claims ∧
            ∀ visit asking visited, claims.issuedAt.toInt - 60 ≤ visit.now.seconds →
              visit.now.seconds ≤ claims.expiresAt.toInt →
              (asking.Bears token (.guarded .me []) →
                (Router.server.answer service visit asking visited).Responds 200
                    claims.selfJson ∧
                  Identity.ofJson (Utf8.encode claims.selfJson) =
                    .ok ⟨user.id, Text.trim asked.name, .ofList [.user],
                      service.authenticator.issuer, claims.expiresAt⟩) ∧
              ∀ segment further, asking.Bears token (.guarded .account [("user_id", segment)]) →
                Target.percentDecode? segment = some user.id →
                Run service start (further ++ registration :: past) visited →
                registration.arrival.freshId ∉ freshIds further →
                (Router.server.answer service visit asking visited).Responds 200 user.json) ∧
        (login.password ≠ asked.password → login.password ≠ "" →
          (Router.server.answer service arrival request state).Responds 401
            (Problem.unauthenticated .invalidCredentials).envelope.json) := by
  rcases run.of_append with ⟨reached, earlier, -⟩
  cases earlier with
  | @answer past before earlier arrived registering =>
    rcases Router.of_created registers.leads registers.posted created with
      ⟨same, user, read, complete, registered, rfl⟩
    cases registers.read.symm.trans read
    rcases Directory.register_eq_ok_iff.mp registered with ⟨-, isUser, isAfter⟩
    have own : user.id = arrived.freshId := congrArg User.id isUser
    have named : user.name = Text.trim asked.name := congrArg User.name isUser
    have plain : user.roles = .ofList [.user] := congrArg User.roles isUser
    have address : user.email = Email.normalize asked.email :=
      (congrArg User.email isUser).trans (Email.normalize_trim asked.email)
    have entered : (arrived.freshId, ⟨user, asked.password⟩) ∈
        (service.meet arrived registering before).answer.state.directory.accounts := by
      have made : (service.meet arrived registering before).answer.state.directory =
          before.directory.insert arrived.freshId ⟨user, asked.password⟩ := isAfter
      rw [made]
      exact List.mem_cons_self
    refine ⟨user, rfl, user.ofJson_json, own, named, address, plain, ?_, ?_⟩
    · intro bytes random
      rw [own.trans random]
      exact ⟨Destination.ofPath_account bytes, (Uuid.isPlain_ofBytes bytes).percentDecode?_eq⟩
    intro arrival request login asks sameAddress
    have member := run.mem_of_entered entered unused
    have spelled : Email.normalize login.email = (⟨user, asked.password⟩ : Account).user.email :=
      sameAddress.trans address.symm
    have passes : login.password ≠ "" → login.fieldErrors.result = .ok () :=
      LoginRequest.result_of_registered complete sameAddress
    refine ⟨fun right alive => ?_, fun wrong some => ?_⟩
    · have some : login.password ≠ "" := right ▸ RegisterRequest.password_ne_empty complete
      rcases responds_to_login order (run.isConsistent consistent) member asks spelled
        (passes some) (congrArg Roles.isEmpty plain) right alive with
        ⟨token, claims, responds, session⟩
      have owner : user.principal = ⟨user.id, .ofList [.user], Text.trim asked.name⟩ := by
        rw [User.principal, plain, named]
      change service.authenticator.IsSession user.principal _ _ _ _ at session
      rw [owner] at session
      refine ⟨token, claims, responds, tokenOfJson_tokenJson token, session, ?_⟩
      intro visit asking visited started alive
      refine ⟨fun bears => ?_, fun segment further bears names run unused => ?_⟩
      · refine ⟨Router.responds_of_me bears.leads bears.got
          (caller_of_session session bears started alive), ?_⟩
        rw [claims.ofJson_selfJson, Claims.identity, session.subject, session.name, session.roles,
          session.issuer]
      · have member : (user.id, ⟨user, asked.password⟩) ∈ visited.directory.accounts :=
          own ▸ run.mem_of_entered entered unused
        exact Router.responds_of_account bears.leads bears.got names
          (caller_of_session session bears started alive) session.subject order.available
          ((run.isConsistent consistent).toIsSound.find_eq member)
    · exact refuses_login order (run.isConsistent consistent) member asks spelled (passes some)
        wrong

end Service

/-! ## A registration and a login -/

def Service.orderly : Service :=
  ⟨.ofKey "k" "i" Rsa.mersenneKey (.ofSeconds 1), .available, .ready, 0⟩

theorem Service.inOrder_orderly : orderly.InOrder 1 where
  available := rfl
  lives := rfl
  sound := ⟨_, Rsa.mersenneKey, rfl, rfl, by rw [Rsa.size_mersenneKey]; decide,
    Authenticator.isGenuine_sample⟩

theorem Request.registers_sampleRegistration :
    sampleRegistration.Registers ⟨"Ada", "Ada@x.org", "passw0rd", "passw0rd"⟩ where
  leads := by decide +kernel
  posted := rfl
  read := by decide +kernel

def LoginRequest.sampleOtherSpelling : LoginRequest :=
  ⟨" ada@X.org", "passw0rd"⟩

def Request.sampleVisit (token : String) : Request :=
  ⟨"GET", "/users/u", [("authorization", Utf8.encode ("Bearer " ++ token))], []⟩

theorem Request.bears_sampleVisit (token : String) :
    (sampleVisit token).Bears token (.guarded .account [("user_id", "u")]) where
  leads := by
    change Destination.ofPath (Target.path "/users/u") = _
    decide +kernel
  got := rfl
  header := header?_eq rfl (by decide +kernel)

theorem Request.bears_sample (token : String) : (sample token).Bears token (.guarded .me []) where
  leads := by
    change Destination.ofPath (Target.path "/users/me") = _
    decide +kernel
  got := rfl
  header := header?_eq rfl (by decide +kernel)

theorem Answer.responds_of_status? {answer : Answer} {status : Nat}
    (responds : answer.status? = some status) : ∃ body, answer.Responds status body := by
  rcases of_status? responds with ⟨response, outcome, status⟩
  exact ⟨response.body, response, outcome, status, rfl⟩

theorem Service.registration_lasts_sample :
    ∃ registration state token told, ∃ user : User, ∃ expiresAt,
      Run orderly .empty [registration] state ∧
        registration.answer.Responds 201 user.json ∧
        (Router.server.answer orderly .sample (.ofLogin .sampleOtherSpelling) state).Responds 200
          (tokenJson token) ∧
        (Router.server.answer orderly .sample (.sample token) state).Responds 200 told ∧
        Identity.ofJson (Utf8.encode told) = .ok ⟨user.id, "Ada", .ofList [.user], "i", expiresAt⟩ ∧
        (Router.server.answer orderly .sample (.sampleVisit token) state).Responds 200
          user.json := by
  let registration := orderly.meet .sample .sampleRegistration .empty
  have run : Run orderly .empty ([] ++ registration :: []) registration.answer.state :=
    .answer .start _ _
  have status : registration.answer.status? = some 201 := by decide +kernel
  have unused : registration.arrival.freshId ∉ freshIds [] := nofun
  rcases Answer.responds_of_status? status with ⟨body, created⟩
  rcases registration_lasts inOrder_orderly Directory.isConsistent_empty run unused
    Request.registers_sampleRegistration created with
    ⟨user, rfl, -, own, -, -, -, -, works⟩
  have asks := Request.asksLogin_ofLogin .sampleOtherSpelling (by decide +kernel)
  rcases (works .sample _ _ asks (by decide +kernel)).1 rfl (by decide) with
    ⟨token, claims, responds, -, session, visits⟩
  have started : claims.issuedAt.toInt - 60 ≤ Arrival.sample.now.seconds := by
    rw [session.issuedAt]
    decide
  have alive : Arrival.sample.now.seconds ≤ claims.expiresAt.toInt := by
    rw [session.expiresAt]
    decide
  have told := (visits .sample (.sample token) registration.answer.state started alive).1
    (Request.bears_sample token)
  have shown := (visits .sample (.sampleVisit token) registration.answer.state started alive).2
    "u" [] (Request.bears_sampleVisit token) (by rw [own]; decide +kernel) run unused
  exact ⟨registration, _, token, _, user, _, run, created, responds, told.1, told.2, shown⟩

end AuthServer
