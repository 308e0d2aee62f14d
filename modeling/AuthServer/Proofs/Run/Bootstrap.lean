import AuthServer.Proofs.Run.Account
import AuthServer.Proofs.Run.Escalation
import AuthServer.Proofs.Settings

/-!
The account that the settings name. It is in the directory from the start and stays there, but the
settings take any address while logins take only those of a valid form: whoever is seeded under
another one never gets in.
-/

namespace AuthServer

namespace Service

section Seed

variable {config : Config} {seed : SeedAdmin} {surroundings : Surroundings}
  {events : List LogEvent} {service : Service} {start state : State} {history : List Event}
  {arrival : Arrival} {request : Request}

theorem inOrder_of_start
    (started : Service.start config surroundings = (events, .ok (service, start)))
    (sound : service.authenticator.HasSoundKey) : service.InOrder config.tokenLifetime := by
  rcases of_start started with ⟨keys, rfl, -⟩
  exact ⟨rfl, rfl, sound⟩

theorem seeded_of_run (seeded : config.seedAdmin = some seed)
    (started : Service.start config surroundings = (events, .ok (service, start)))
    (run : Run service start history state) (unused : surroundings.freshId ∉ freshIds history) :
    state.directory.IsConsistent ∧
      (surroundings.freshId, seed.grown surroundings.freshId surroundings.now) ∈
        state.directory.accounts := by
  rcases of_start started with ⟨keys, -, planted⟩
  constructor
  · apply run.isConsistent
    rw [planted]
    exact config.isConsistent_planted surroundings
  · refine run.mem_of_start ?_ unused
    rw [planted]
    exact Config.mem_planted.mpr ⟨seed, seeded, rfl⟩

/-- A login under an address that is not valid is refused, whoever it belongs to. -/
theorem refuses_invalid {login : LoginRequest} (asks : request.AsksLogin login)
    (invalid : Email.isValid (Text.trim login.email) = false) (some : login.password ≠ "") :
    (Router.server.answer service arrival request state).Responds 400
      (Problem.ofField "email" "invalid email format").envelope.json :=
  Router.responds_of_interrupted asks.leads asks.posted
    (Endpoint.login_of_incomplete rfl asks.read (LoginRequest.result_of_invalid invalid some))

end Seed

/-- The seeded admin logs in with the two values of the settings if the address is valid, and never
if it is not. -/
theorem seeded_admin_login {lookup : String → Option String} {config : Config}
    {email password : String} {surroundings : Surroundings} {events : List LogEvent}
    {service : Service} {start state : State} {history : List Event}
    (read : Config.read lookup = .ok config)
    (emailSet : Config.setting lookup "SEED_ADMIN_EMAIL" = some email)
    (passwordSet : Config.setting lookup "SEED_ADMIN_PASSWORD" = some password)
    (started : Service.start config surroundings = (events, .ok (service, start)))
    (sound : service.authenticator.HasSoundKey) (run : Run service start history state)
    (unused : surroundings.freshId ∉ freshIds history) {arrival : Arrival} {request : Request}
    (asks : request.AsksLogin ⟨email, password⟩) (since : 0 ≤ arrival.now.nanos) :
    (Email.isValid (Text.trim email) = true →
      ∃ token claims,
        (Router.server.answer service arrival request state).Responds 200 (tokenJson token) ∧
          tokenOfJson (Utf8.encode (tokenJson token)) = .ok token ∧
          service.authenticator.IsSession
            ⟨surroundings.freshId, .ofList [.admin, .user], "admin"⟩ arrival.now
            config.tokenLifetime token claims) ∧
      (Email.isValid (Text.trim email) = false →
        (Router.server.answer service arrival request state).Responds 400
          (Problem.ofField "email" "invalid email format").envelope.json) := by
  have some : password ≠ "" := by
    rintro rfl
    cases Config.not_blank_of_setting passwordSet
  have seeded := Config.seedAdmin_of_read read emailSet passwordSet
  rcases seeded_of_run seeded started run unused with ⟨consistent, member⟩
  refine ⟨fun valid => ?_, fun invalid => refuses_invalid asks invalid some⟩
  have alive : 0 ≤ arrival.now.seconds + config.tokenLifetime := by
    have seconds : 0 ≤ arrival.now.seconds := Int.ediv_nonneg since (by decide)
    omega
  rcases responds_to_login (inOrder_of_start started sound) consistent member asks rfl
    (LoginRequest.result_eq_ok_iff.mpr ⟨valid, some⟩) rfl rfl alive with
    ⟨token, claims, responds, session⟩
  exact ⟨token, claims, responds, tokenOfJson_tokenJson token, session⟩

end Service

/-! ## Two seeds -/

def Config.seedLookup (email key : String) : Option String :=
  if key = "AUTH_ACTIVEKID" then some "k"
  else if key = "SEED_ADMIN_EMAIL" then some email
  else if key = "SEED_ADMIN_PASSWORD" then some "p"
  else none

def Config.seeded (email : String) : Config where
  host := .v4 ⟨0, 0, 0, 0⟩
  port := 3000
  keysFolder := "zarf/keys/"
  activeKid := "k"
  issuer := "BackEnd"
  tokenLifetime := 3600
  shutdownTimeout := 60
  origins := .any
  readinessTimeout := 1000
  seedAdmin := some ⟨email, "p"⟩
  logFormat := .pretty

theorem Service.start_seeded (email : String) :
    ∃ events service start, Service.start (.seeded email) .sample = (events, .ok (service, start)) ∧
      service.authenticator.HasSoundKey := by
  rcases start_of_activeKid (show (Config.seeded email).activeKid = "k" from rfl) with
    ⟨keys, events, started, found, active⟩
  refine ⟨events, _, _, started, .ofPrivate Rsa.mersenneKey, Rsa.mersenneKey, ?_, rfl, ?_,
    Authenticator.isGenuine_sample⟩
  · change keys.ring.find? keys.activeKid = _
    rw [active, found]
  · rw [Rsa.size_mersenneKey]
    decide

theorem Service.seeded_admin_login_sample :
    ∃ events service start token,
      Config.read (Config.seedLookup "a@b.c") = .ok (.seeded "a@b.c") ∧
        Service.start (.seeded "a@b.c") .sample = (events, .ok (service, start)) ∧
        (Router.server.answer service .sample (.ofLogin ⟨"a@b.c", "p"⟩) start).Responds 200
          (tokenJson token) := by
  have read : Config.read (Config.seedLookup "a@b.c") = .ok (.seeded "a@b.c") := by decide +kernel
  rcases start_seeded "a@b.c" with ⟨events, service, start, started, sound⟩
  have asks := Request.asksLogin_ofLogin ⟨"a@b.c", "p"⟩ (by decide +kernel)
  have since : 0 ≤ Arrival.sample.now.nanos := by decide
  rcases (seeded_admin_login read (by decide +kernel) (by decide +kernel) started sound .start
    nofun asks since).1 (by decide +kernel) with ⟨token, claims, responds, -⟩
  exact ⟨events, service, start, token, read, started, responds⟩

/-- An admin who is seeded as "root" does not get in. -/
theorem Service.seeded_admin_refused :
    ∃ events service start,
      Config.read (Config.seedLookup "root") = .ok (.seeded "root") ∧
        Config.setting (Config.seedLookup "root") "SEED_ADMIN_EMAIL" = some "root" ∧
        Config.setting (Config.seedLookup "root") "SEED_ADMIN_PASSWORD" = some "p" ∧
        Service.start (.seeded "root") .sample = (events, .ok (service, start)) ∧
        service.authenticator.HasSoundKey ∧
        (Request.ofLogin ⟨"root", "p"⟩).AsksLogin ⟨"root", "p"⟩ ∧
        (Router.server.answer service .sample (.ofLogin ⟨"root", "p"⟩) start).Responds 400
          (Problem.ofField "email" "invalid email format").envelope.json := by
  have asks := Request.asksLogin_ofLogin ⟨"root", "p"⟩ (by decide +kernel)
  rcases start_seeded "root" with ⟨events, service, start, started, sound⟩
  exact ⟨events, service, start, by decide +kernel, by decide +kernel, by decide +kernel, started,
    sound, asks, refuses_invalid asks (by decide +kernel) (by decide)⟩

end AuthServer
