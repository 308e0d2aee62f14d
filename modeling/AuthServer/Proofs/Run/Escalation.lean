import AuthServer.Proofs.Keys.Folder
import AuthServer.Proofs.Routes.Accounts
import AuthServer.Proofs.Routes.Gatekeeping
import AuthServer.Proofs.Run.Trace
import AuthServer.Proofs.Startup
import AuthServer.Proofs.Token.Payload

/-!
Nobody gains privileges in the course of a run. As long as nobody forges tokens, all tokens that
are returned go back to logins and say what the login made them say, however often they were signed
again; and nobody becomes an admin but by the settings.
-/

namespace AuthServer

/-! ## Tokens in the course of a history -/

/-- A token was returned in the course of a history. -/
def Returned (history : List Event) (token : String) : Prop :=
  ∃ event ∈ history, event.answer.Returns token

def Request.Presents (request : Request) (token : String) : Prop :=
  ∃ value text, request.header? "authorization" = some value ∧ headerText? value = some text ∧
    Bearer.token (some text) = .ok token

/-- Whoever was accepted in the course of a history presented a token that had been returned. -/
def Unforged (service : Service) : List Event → Prop
  | [] => True
  | event :: past =>
      (∀ claims, event.request.caller service.authenticator event.arrival.now = .ok claims →
        ∃ token, event.request.Presents token ∧ Returned past token) ∧ Unforged service past

/-- A successful login to an account, with the claims of the token that it returned. -/
structure Event.Mints (event : Event) (service : Service) (account : Account) (claims : Claims) :
    Prop where
  leads : Destination.ofPath (Target.path event.request.target) = .anyone .login
  posted : event.request.method = "POST"
  known : event.request.LogsIn event.before.directory account
  made : claims = service.authenticator.claimsFor account.user.principal event.arrival.now
  returned : ∃ token, event.answer.Returns token ∧ Token.Carries token claims

def Minted (service : Service) (history : List Event) (claims : Claims) : Prop :=
  ∃ login ∈ history, ∃ account, login.Mints service account claims

structure Event.Resigns (event : Event) (presented : String) (claims : Claims) : Prop where
  leads : ∃ values, Destination.ofPath (Target.path event.request.target) =
    .guarded .reissue values
  presents : event.request.Presents presented
  carries : Token.Carries presented claims

theorem Request.carries_of_caller {request : Request} {authenticator : Authenticator}
    {now : Instant} {claims : Claims} (known : request.caller authenticator now = .ok claims) :
    ∃ token, request.Presents token ∧ Token.Carries token claims := by
  unfold caller at known
  cases header : request.header? "authorization" with
  | none =>
      simp only [header] at known
      cases known
  | some value =>
      cases readable : headerText? value with
      | none => simp [header, readable] at known
      | some text =>
          simp only [header, readable] at known
          rcases Authenticator.carries_of_authenticate known with ⟨token, borne, carries⟩
          exact ⟨token, ⟨value, text, header, readable, borne⟩, carries⟩

theorem Request.Presents.unique {request : Request} {token other : String}
    (presents : request.Presents token) (presentsOther : request.Presents other) :
    token = other := by
  rcases presents with ⟨value, text, header, readable, borne⟩
  rcases presentsOther with ⟨sameValue, sameText, headerAgain, readableAgain, borneAgain⟩
  cases header.symm.trans headerAgain
  cases readable.symm.trans readableAgain
  cases borne.symm.trans borneAgain
  rfl

theorem Request.presents_of_issue {request : Request} {authenticator : Authenticator}
    {kid token : String} {claims : Claims} (issued : authenticator.issue kid claims = .ok token)
    (header : request.header? "authorization" = some (Utf8.encode ("Bearer " ++ token))) :
    request.Presents token := by
  rcases Authenticator.of_issue issued with ⟨entry, key, -, -, encoded⟩
  rcases Token.toList_encode encoded with ⟨notEmpty, trimmed⟩
  exact ⟨_, _, header, headerText?_encode (Token.isPrintable_encode encoded),
    Bearer.token_of_isTrimmed notEmpty trimmed⟩

/-- A token that is returned was made by a login or by signing a presented token again. -/
theorem Service.returns_meet {service : Service} {arrival : Arrival} {request : Request}
    {state : State} {token : String}
    (returned : (service.meet arrival request state).answer.Returns token) :
    ∃ claims, Token.Carries token claims ∧
      ((∃ account, (service.meet arrival request state).Mints service account claims) ∨
        request.caller service.authenticator arrival.now = .ok claims ∧
          ∃ presented, (service.meet arrival request state).Resigns presented claims) := by
  cases Router.server_effect service arrival request state with
  | nothing quiet => exact absurd returned (quiet.tokenless token)
  | registration asked user entered tokenless => exact absurd returned (tokenless token)
  | login account issued leads posted known issues returns unchanged =>
      cases returns token returned
      have carries := Authenticator.carries_of_issue issues
      exact ⟨_, carries, .inl ⟨account, leads, posted, known, rfl, token, returned, carries⟩⟩
  | reissue values claims leads known issues unchanged =>
      rcases issues token returned with ⟨kid, issued⟩
      rcases Request.carries_of_caller known with ⟨presented, presents, carries⟩
      exact ⟨claims, Authenticator.carries_of_issue issued,
        .inr ⟨known, presented, ⟨values, leads⟩, presents, carries⟩⟩

theorem Service.origin_meet {service : Service} {arrival : Arrival} {request : Request}
    {state : State} {past : List Event} {token : String}
    (unforged : Unforged service (service.meet arrival request state :: past))
    (minted : ∀ earlier, Returned past earlier →
      ∃ claims, Token.Carries earlier claims ∧ Minted service past claims)
    (returned : (service.meet arrival request state).answer.Returns token) :
    ∃ claims, Token.Carries token claims ∧
      ((∃ account, (service.meet arrival request state).Mints service account claims) ∨
        Minted service past claims ∧
          ∃ presented, (service.meet arrival request state).Resigns presented claims ∧
            Returned past presented) := by
  rcases returns_meet returned with ⟨claims, carries, mints | ⟨known, presented, resigns⟩⟩
  · exact ⟨claims, carries, .inl mints⟩
  · rcases unforged.1 claims known with ⟨earlier, presents, returnedEarlier⟩
    cases presents.unique resigns.presents
    rcases minted _ returnedEarlier with ⟨others, carried, origin⟩
    cases carried.unique resigns.carries
    exact ⟨_, carries, .inr ⟨origin, _, resigns, returnedEarlier⟩⟩

theorem Unforged.of_append {service : Service} {later history : List Event}
    (unforged : Unforged service (later ++ history)) : Unforged service history := by
  induction later with
  | nil => exact unforged
  | cons event later induction => exact induction unforged.2

namespace Run

variable {service : Service} {start : State} {history : List Event} {state : State}

theorem minted_of_returned (run : Run service start history state)
    (unforged : Unforged service history) {token : String} (returned : Returned history token) :
    ∃ claims, Token.Carries token claims ∧ Minted service history claims := by
  induction run generalizing token with
  | start =>
      rcases returned with ⟨event, member, -⟩
      cases member
  | @answer past state run arrival request induction =>
      have minted := fun earlier => @induction unforged.2 earlier
      have older : ∀ claims, Minted service past claims →
          Minted service (service.meet arrival request state :: past) claims := by
        rintro claims ⟨login, member, mints⟩
        exact ⟨login, List.mem_cons_of_mem _ member, mints⟩
      rcases returned with ⟨event, member, returns⟩
      rcases List.mem_cons.mp member with same | member
      · subst same
        rcases Service.origin_meet unforged minted returns with
          ⟨claims, carries, mints | ⟨origin, -⟩⟩
        · exact ⟨claims, carries, _, List.mem_cons_self, mints⟩
        · exact ⟨claims, carries, older claims origin⟩
      · rcases minted token ⟨event, member, returns⟩ with ⟨claims, carries, origin⟩
        exact ⟨claims, carries, older claims origin⟩

/-- A token that is returned in the middle of a run carries the claims of a login, at which it is
returned itself unless it repeats the claims of an earlier token. -/
theorem origin {later past : List Event} {event : Event}
    (run : Run service start (later ++ event :: past) state)
    (unforged : Unforged service (later ++ event :: past)) {token : String}
    (returns : event.answer.Returns token) :
    ∃ login ∈ event :: past, ∃ account claims, login.Mints service account claims ∧
      Token.Carries token claims ∧
      (login = event ∨ ∃ presented, event.Resigns presented claims ∧ Returned past presented) := by
  rcases run.of_append with ⟨reached, run, -⟩
  cases run with
  | @answer past state run arrival request =>
      rcases Service.origin_meet unforged.of_append
        (fun earlier => run.minted_of_returned unforged.of_append.2) returns with
        ⟨claims, carries, ⟨account, mints⟩ | ⟨⟨login, member, account, mints⟩, resigns⟩⟩
      · exact ⟨_, List.mem_cons_self, account, claims, mints, carries, .inl rfl⟩
      · exact ⟨login, List.mem_cons_of_mem _ member, account, claims, mints, carries,
          .inr resigns⟩

end Run

/-! ## From the start -/

/-- No run of a server gains anyone a privilege. Where tokens are not forged, each that is returned
carries the claims of a login: of an account in the directory with its own id and roles, by the
issuer of the settings and for the lifetime that starts at the login. Whatever signs a token again
keeps its claims, and only a seed makes an admin. -/
theorem Service.no_escalation (config : Config) (surroundings : Surroundings)
    (events : List LogEvent) (service : Service) (start : State)
    (started : Service.start config surroundings = (events, .ok (service, start)))
    (history : List Event) (state : State) (run : Run service start history state)
    (unforged : Unforged service history) :
    (∀ later event past token, history = later ++ event :: past → event.answer.Returns token →
      ∃ login ∈ event :: past, ∃ account claims,
        login.Mints service account claims ∧ Token.Carries token claims ∧
        (login = event ∨
          ∃ presented, event.Resigns presented claims ∧ Returned past presented) ∧
        claims.subject = account.user.id ∧ claims.roles = account.user.roles ∧
        claims.issuer = config.issuer ∧
        claims.issuedAt = .ofInt login.arrival.now.seconds ∧
        claims.expiresAt = .ofInt
          ((login.arrival.now.add? (.ofSeconds config.tokenLifetime)).getD .last).seconds ∧
        login.before.directory.account? claims.subject = some account ∧
        ((freshIds history ++ [surroundings.freshId]).Nodup →
          state.directory.account? claims.subject = some account)) ∧
    (∀ id account, (id, account) ∈ state.directory.accounts →
      account.user.roles.contains .admin = true →
      ∃ seed, config.seedAdmin = some seed ∧ id = surroundings.freshId ∧
        account = seed.grown surroundings.freshId surroundings.now) := by
  rcases of_start started with ⟨keys, rfl, planted⟩
  have consistent : start.directory.IsConsistent := by
    rw [planted]
    exact config.isConsistent_planted surroundings
  constructor
  · intro later event past token split returns
    subst split
    rcases run.origin unforged returns with
      ⟨login, member, account, claims, mints, carries, origin⟩
    have inHistory := List.mem_append_right later member
    rcases mints.known with ⟨asked, -, found, -⟩
    rcases run.of_mem inHistory with ⟨⟨earlier, before⟩, -⟩
    have stands := (before.isConsistent consistent).account?_of_accountOf? found
    refine ⟨login, member, account, claims, mints, carries, origin, ?_⟩
    cases mints.made
    refine ⟨rfl, rfl, rfl, rfl, rfl, stands, fun distinct => ?_⟩
    apply (run.isConsistent consistent).account?_of_mem
    refine run.mem_accounts ?_ distinct inHistory (Directory.mem_of_account? stands)
    intro id account atStart
    rw [planted] at atStart
    rcases Config.mem_planted.mp atStart with ⟨seed, -, same⟩
    cases same
    rfl
  · intro id account member admin
    have atStart := run.of_admin member admin
    rw [planted] at atStart
    rcases Config.mem_planted.mp atStart with ⟨seed, seeded, same⟩
    cases same
    exact ⟨seed, seeded, rfl, rfl⟩

/-! ## A run -/

def Config.sample : Config where
  host := .v4 ⟨127, 0, 0, 1⟩
  port := 0
  keysFolder := ""
  activeKid := "k"
  issuer := "i"
  tokenLifetime := 1
  shutdownTimeout := 0
  origins := .any
  readinessTimeout := 0
  seedAdmin := some ⟨"a@b.c", "p"⟩
  logFormat := .json

def Surroundings.sample : Surroundings where
  files := ⟨[(Utf8.encode "k.pem", .file (Pem.armour "RSA PRIVATE KEY" Rsa.mersenneForm))]⟩
  keysFolder := []
  now := .epoch
  freshId := "s"

def Account.sample : Account := SeedAdmin.grown ⟨"a@b.c", "p"⟩ "s" .epoch

/-- With the one key of the folder every service starts that asks for it. -/
theorem Service.start_of_activeKid {config : Config} (chosen : config.activeKid = "k") :
    ∃ keys events, start config .sample =
        (events, .ok (ofConfig config keys, ⟨config.planted .sample, .zero⟩)) ∧
      keys.ring.find? "k" = some (.ofPrivate Rsa.mersenneKey) ∧ keys.activeKid = "k" := by
  rcases KeyFolder.load_single (Utf8.encode "k.pem") (by decide +kernel) (by decide +kernel)
    (by decide +kernel) (KeyEntry.read_mersenneForm "k") rfl config.keysFolder with
    ⟨keys, ⟨events, loaded⟩, found, active⟩
  rw [← chosen] at loaded
  have started : ∃ events, start config .sample =
      (events, .ok (ofConfig config keys, ⟨config.planted .sample, .zero⟩)) :=
    start_of_load loaded
  rcases started with ⟨events, started⟩
  exact ⟨keys, events, started, found, active⟩

theorem Service.start_sample :
    ∃ keys events, start .sample .sample =
        (events, .ok (ofConfig .sample keys, ⟨⟨[("s", .sample)]⟩, .zero⟩)) ∧
      keys.ring.find? "k" = some (.ofPrivate Rsa.mersenneKey) ∧ keys.activeKid = "k" :=
  start_of_activeKid rfl

def Request.sampleLogin : Request where
  method := "POST"
  target := "/users/login"
  headers := [("content-type", Utf8.encode "application/json")]
  body := Utf8.encode "\x7b\"email\":\"a@b.c\",\"password\":\"p\"\x7d"

def Request.sampleReissue (token : String) : Request where
  method := "GET"
  target := "/auth/token/k"
  headers := [("authorization", Utf8.encode ("Bearer " ++ token))]
  body := []

theorem Request.header?_sampleReissue (token : String) :
    (sampleReissue token).header? "authorization" = some (Utf8.encode ("Bearer " ++ token)) :=
  header?_eq rfl (by decide +kernel)

theorem Request.leads_sampleReissue (token : String) :
    Destination.ofPath (Target.path (sampleReissue token).target) =
      .guarded .reissue [("kid", "k")] := by
  change Destination.ofPath (Target.path "/auth/token/k") = _
  decide +kernel

def Claims.sampleMinted : Claims :=
  .forPrincipal Account.sample.user.principal "i" .epoch (.ofSeconds 1)

theorem Claims.acceptable_sampleMinted : sampleMinted.Acceptable "i" .epoch := by
  constructor <;> decide

section

variable {keys : KeyStore} {state : State}

theorem returns_sampleLogin {token : String} (active : keys.activeKid = "k")
    (issued : (Service.ofConfig .sample keys).authenticator.issue "k" .sampleMinted = .ok token)
    (planted : state.directory = ⟨[("s", .sample)]⟩) :
    (Router.server.answer (.ofConfig .sample keys) .sample .sampleLogin state).Returns token := by
  have leads : Destination.ofPath (Target.path Request.sampleLogin.target) = .anyone .login := by
    decide +kernel
  have read : JsonBody.read LoginRequest.shape.read .sampleLogin = .ok ⟨"a@b.c", "p"⟩ := by
    decide +kernel
  have known : state.directory.authenticate (Text.trim "a@b.c") "p" =
      .ok Account.sample.user.principal := by
    rw [planted]
    decide +kernel
  apply Answer.Responds.returns
  refine Router.responds_of_known leads rfl read (by decide +kernel) rfl known ?_
  change (Service.ofConfig .sample keys).authenticator.issue keys.activeKid .sampleMinted = _
  rw [active, issued]

theorem caller_sampleReissue {token : String}
    (found : keys.ring.find? "k" = some (.ofPrivate Rsa.mersenneKey))
    (issued : (Service.ofConfig .sample keys).authenticator.issue "k" .sampleMinted = .ok token) :
    (Request.sampleReissue token).caller (Service.ofConfig .sample keys).authenticator .epoch =
      .ok .sampleMinted := by
  rcases Authenticator.of_issue issued with ⟨entry, key, -, -, encoded⟩
  rw [Request.caller_of_header (Request.header?_sampleReissue token)
      (Token.isPrintable_encode encoded),
    Authenticator.authenticate_of_genuine issued found found Authenticator.isGenuine_sample]
  exact Claims.verdict_of_acceptable Claims.acceptable_sampleMinted

theorem returns_sampleReissue {token : String}
    (found : keys.ring.find? "k" = some (.ofPrivate Rsa.mersenneKey))
    (issued : (Service.ofConfig .sample keys).authenticator.issue "k" .sampleMinted = .ok token) :
    (Router.server.answer (.ofConfig .sample keys) .sample (.sampleReissue token) state).Returns
      token := by
  have leads := Request.leads_sampleReissue token
  have decoded : Params.ofSegments [("kid", "k")] = .ok [("kid", "k")] := by
    decide +kernel
  have known := caller_sampleReissue found issued
  exact Answer.Responds.returns
    (Router.responds_of_reissue leads decoded rfl known rfl issued)

end

theorem Service.no_escalation_sample :
    ∃ events service start login reissue state again,
      Service.start .sample .sample = (events, .ok (service, start)) ∧
      Run service start [reissue, login] state ∧ Unforged service [reissue, login] ∧
      reissue.request.target = "/auth/token/k" ∧ reissue.answer.Returns again ∧
      ∃ source ∈ [reissue, login], ∃ account claims, source.Mints service account claims ∧
        Token.Carries again claims := by
  rcases start_sample with ⟨keys, events, started, found, active⟩
  let service := ofConfig .sample keys
  have signs : (KeyEntry.ofPrivate Rsa.mersenneKey).signing = some Rsa.mersenneKey := rfl
  have possible : ∃ token, service.authenticator.issue "k" Claims.sampleMinted = .ok token :=
    Authenticator.exists_issue found signs (by rw [Rsa.size_mersenneKey]; decide) _
  rcases possible with ⟨token, issued⟩
  let start : State := ⟨⟨[("s", Account.sample)]⟩, .zero⟩
  let login := service.meet .sample .sampleLogin start
  let reissue := service.meet .sample (.sampleReissue token) login.answer.state
  have run : Run service start [reissue, login] reissue.answer.state :=
    .answer (.answer .start _ _) _ _
  have returned : Returned [login] token :=
    ⟨login, List.mem_singleton_self login, returns_sampleLogin active issued rfl⟩
  have returnedAgain : reissue.answer.Returns token := returns_sampleReissue found issued
  have unforged : Unforged service [reissue, login] := by
    refine ⟨fun claims known => ⟨token, ?_, returned⟩, fun claims known => ?_, trivial⟩
    · exact Request.presents_of_issue issued (Request.header?_sampleReissue token)
    · cases known
  rcases no_escalation .sample .sample events service start started _ _ run unforged with
    ⟨origin, -⟩
  rcases origin [] reissue [login] token rfl returnedAgain with
    ⟨source, member, account, claims, mints, carries, -⟩
  exact ⟨events, service, start, login, reissue, _, token, started, run, unforged, rfl,
    returnedAgain, source, member, account, claims, mints, carries⟩

end AuthServer
