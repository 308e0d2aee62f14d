import AuthServer.Program
import AuthServer.Proofs.Endpoint.Secrecy
import AuthServer.Proofs.Problem.Envelope
import AuthServer.Proofs.Routes.Completion
import AuthServer.Proofs.Routes.FullChain
import AuthServer.Proofs.Run.Registration
import AuthServer.Proofs.Settings.Acceptance
import Mathlib.Data.List.Forall2

/-!
Where passwords show. Two servers whose accounts differ in passwords at most, and that are asked the
same but for passwords, give the same responses and log the same events, as long as no check of a
password comes out differently. What stands for a password in a body that is not read as a request
does show: the complaint about the body may quote it, and says where reading stopped.
-/

namespace AuthServer

/-! ## Requests -/

/-- Two requests, at directories that have the same users, that differ in passwords at most. What
logs in or registers comes with a body that is read as such a pair, or refused with the same
complaint; whatever else is asked for is the same. -/
structure Request.Alike (availability : Availability) (directory other : Directory)
    (first second : Request) : Prop where
  method : first.method = second.method
  target : first.target = second.target
  login : Destination.ofPath (Target.path first.target) = .anyone .login → first.method = "POST" →
    EndAlike (LoginRequest.Alike availability directory other)
      (JsonBody.read LoginRequest.shape.read first) (JsonBody.read LoginRequest.shape.read second)
  register : Destination.ofPath (Target.path first.target) = .anyone .register →
    first.method = "POST" →
    EndAlike RegisterRequest.Alike (JsonBody.read RegisterRequest.shape.read first)
      (JsonBody.read RegisterRequest.shape.read second)
  otherwise : (∀ route, Destination.ofPath (Target.path first.target) ≠ .anyone route) →
    first = second

namespace Request

variable {availability : Availability} {directory other : Directory} {first second : Request}

theorem alike_of_logins {login otherLogin : LoginRequest} (asks : first.AsksLogin login)
    (otherAsks : second.AsksLogin otherLogin) (target : first.target = second.target)
    (alike : login.Alike availability directory other otherLogin) :
    first.Alike availability directory other second where
  method := asks.posted.trans otherAsks.posted.symm
  target := target
  login _ _ := by
    rw [asks.read, otherAsks.read]
    exact .done alike
  register leads := by
    rw [asks.leads] at leads
    cases leads
  otherwise closed := absurd asks.leads (closed .login)

theorem alike_of_registrations {registration otherRegistration : RegisterRequest}
    (registers : first.Registers registration) (otherRegisters : second.Registers otherRegistration)
    (target : first.target = second.target) (alike : registration.Alike otherRegistration) :
    first.Alike availability directory other second where
  method := registers.posted.trans otherRegisters.posted.symm
  target := target
  login leads := by
    rw [registers.leads] at leads
    cases leads
  register _ _ := by
    rw [registers.read, otherRegisters.read]
    exact .done alike
  otherwise closed := absurd registers.leads (closed .register)

end Request

/-! ## Bodies that are not read -/

theorem JsonBody.exists_reason {α : Type} {reader : (depth : Nat) → Json.Reader α}
    {request : Request} {complaint : Problem} (refused : read reader request = .error complaint) :
    ∃ reason, complaint = .ofField "body" reason := by
  unfold read at refused
  dsimp only at refused
  split at refused
  · cases refused
    exact ⟨_, rfl⟩
  · split at refused
    · cases refused
      exact ⟨_, rfl⟩
    · split at refused
      · cases refused
      · cases refused
        exact ⟨_, rfl⟩

/-- A login or a registration whose body is not read as one, with the complaint about it. -/
inductive Request.IsUnread (request : Request) (complaint : Problem) : Prop
  | login (leads : Destination.ofPath (Target.path request.target) = .anyone .login)
      (posted : request.method = "POST")
      (refused : JsonBody.read LoginRequest.shape.read request = .error complaint)
  | register (leads : Destination.ofPath (Target.path request.target) = .anyone .register)
      (posted : request.method = "POST")
      (refused : JsonBody.read RegisterRequest.shape.read request = .error complaint)

namespace Request.IsUnread

variable {first second : Request} {complaint other : Problem}

theorem exists_reason (unread : first.IsUnread complaint) :
    ∃ reason, complaint = .ofField "body" reason := by
  cases unread with
  | login leads posted refused => exact JsonBody.exists_reason refused
  | register leads posted refused => exact JsonBody.exists_reason refused

/-- Nothing else is done once the body was refused. -/
theorem interrupts (unread : first.IsUnread complaint) (service : Service) (arrival : Arrival)
    (directory : Directory) :
    ∃ route, Destination.ofPath (Target.path first.target) = .anyone route ∧
      first.method = "POST" ∧
      route.endpoint (Exchange.arriving service arrival first (.ok [])).entered directory =
        .error (.problem complaint) := by
  cases unread with
  | login leads posted refused =>
      refine ⟨.login, leads, posted, ?_⟩
      have read : JsonBody.read LoginRequest.shape.read
          (Exchange.arriving service arrival first (.ok [])).entered.request = _ := refused
      change Endpoint.login _ _ = _
      simp only [Endpoint.login, Endpoint.orStop, read, mapError_error, error_bind]
      rfl
  | register leads posted refused =>
      refine ⟨.register, leads, posted, ?_⟩
      have read : JsonBody.read RegisterRequest.shape.read
          (Exchange.arriving service arrival first (.ok [])).entered.request = _ := refused
      change Endpoint.register _ _ = _
      simp only [Endpoint.register, Endpoint.orStop, read, mapError_error, error_bind]
      rfl

theorem responds (unread : first.IsUnread complaint) (service : Service) (arrival : Arrival)
    (state : State) :
    (Router.server.answer service arrival first state).Responds 400 complaint.envelope.json := by
  have status : complaint.status = 400 := by
    rcases unread.exists_reason with ⟨reason, rfl⟩
    rfl
  rcases unread.interrupts service arrival state.directory with
    ⟨route, leads, posted, interrupted⟩
  rw [← status]
  exact Router.responds_of_interrupted leads posted interrupted

theorem logs (unread : first.IsUnread complaint) (service : Service) (arrival : Arrival)
    (state : State) :
    ((Router.server.answer service arrival first state).events.filterMap
      fun event => event.fields.lookup "error") = [.plain complaint.detail] := by
  rcases unread.interrupts service arrival state.directory with
    ⟨route, leads, posted, interrupted⟩
  have handled : route.endpoint.handler (Exchange.arriving service arrival first (.ok [])).entered
      state.entered = .respond complaint.response state.entered := by
    rw [Endpoint.handler, State.entered, interrupted]
  have inside : (Destination.anyone route).inside first.method = route.endpoint.handler := by
    rw [posted]
    rfl
  have full : (Destination.ofPath (Target.path first.target)).isProbe = false := by
    rw [leads]
    rfl
  rw [Router.server_answer_of_full service arrival first state full, leads, inside]
  change (Stage.full route.endpoint.handler
    (Exchange.arriving service arrival first (.ok [])) state).events.filterMap _ = _
  rw [Stage.full_eq, handled, Stage.completion_eq]
  rfl

theorem eq_of_outcome (unread : first.IsUnread complaint) (otherUnread : second.IsUnread other)
    {service : Service} {arrival : Arrival} {state otherState : State}
    (same : (Router.server.answer service arrival first state).outcome =
      (Router.server.answer service arrival second otherState).outcome) : complaint = other := by
  rcases unread.responds service arrival state with ⟨response, answered, -, body⟩
  rcases otherUnread.responds service arrival otherState with ⟨_, otherAnswered, -, otherBody⟩
  rw [answered, otherAnswered] at same
  cases same
  have envelopes := complaint.envelope.ofJson_json
  rw [← body, otherBody, Envelope.ofJson_json] at envelopes
  rcases unread.exists_reason with ⟨reason, rfl⟩
  rcases otherUnread.exists_reason with ⟨otherReason, rfl⟩
  cases envelopes
  rfl

theorem alike (unread : first.IsUnread complaint) (otherUnread : second.IsUnread complaint)
    (target : first.target = second.target) (availability : Availability)
    (directory otherDirectory : Directory) :
    first.Alike availability directory otherDirectory second := by
  cases unread with
  | login leads posted refused =>
      cases otherUnread with
      | login otherLeads otherPosted otherRefused =>
          refine ⟨posted.trans otherPosted.symm, target, fun _ _ => ?_, fun elsewhere => ?_,
            fun closed => absurd leads (closed .login)⟩
          · rw [refused, otherRefused]
            exact .failed _
          · cases leads.symm.trans elsewhere
      | register otherLeads => cases leads.symm.trans (target ▸ otherLeads)
  | register leads posted refused =>
      cases otherUnread with
      | login otherLeads => cases leads.symm.trans (target ▸ otherLeads)
      | register otherLeads otherPosted otherRefused =>
          refine ⟨posted.trans otherPosted.symm, target, fun elsewhere => ?_, fun _ _ => ?_,
            fun closed => absurd leads (closed .register)⟩
          · cases leads.symm.trans elsewhere
          · rw [refused, otherRefused]
            exact .failed _

end Request.IsUnread

/-- Two requests that differ in what stands for a password at most: they are alike, or neither body
is read. -/
inductive Request.Paired (availability : Availability) (directory other : Directory)
    (first second : Request) : Prop
  | alike (alike : first.Alike availability directory other second)
  | unread {complaint otherComplaint : Problem} (target : first.target = second.target)
      (unread : first.IsUnread complaint) (otherUnread : second.IsUnread otherComplaint)

theorem Request.Paired.alike_of_outcome {availability : Availability} {directory other : Directory}
    {first second : Request} (paired : first.Paired availability directory other second)
    {service : Service} {arrival : Arrival} {state otherState : State}
    (same : (Router.server.answer service arrival first state).outcome =
      (Router.server.answer service arrival second otherState).outcome) :
    first.Alike availability directory other second := by
  cases paired with
  | alike alike => exact alike
  | unread target unread otherUnread =>
      cases unread.eq_of_outcome otherUnread same
      exact unread.alike otherUnread target availability directory other

/-! ### Two passwords that show -/

def Request.ofDocument (document : String) : Request where
  method := "POST"
  target := "/users/login"
  headers := [("content-type", Utf8.encode "application/json")]
  body := Utf8.encode document

def Problem.misfit (reason : String) : Problem :=
  .ofField "body" ("Failed to deserialize the JSON body into the target type: " ++ reason)

structure Request.IsRefused (request : Request) (reason : String) : Prop where
  unread : request.IsUnread (.misfit reason)
  told : (Router.server.answer .orderly .sample request .empty).Responds 400
    (Problem.misfit reason).envelope.json
  logged : ((Router.server.answer .orderly .sample request .empty).events.filterMap
    fun event => event.fields.lookup "error") = [.plain (Problem.misfit reason).detail]

theorem Request.isRefused_ofDocument {document reason : String}
    (refused : JsonBody.read LoginRequest.shape.read (.ofDocument document) =
      .error (.misfit reason)) :
    (ofDocument document).IsRefused reason := by
  have leads : Destination.ofPath (Target.path "/users/login") = .anyone .login := by
    decide +kernel
  have unread : (ofDocument document).IsUnread (.misfit reason) := .login leads rfl refused
  exact ⟨unread, unread.responds _ _ _, unread.logs _ _ _⟩

/-- A password that is a number shows: the client and the log are told the number. One that is a
text shows how long it is if what comes after it is not read. -/
theorem Request.unread_password_shows :
    ∃ first second short long : Request,
      first = .ofDocument "\x7b\"email\":\"a@b.c\",\"password\":12345678\x7d" ∧
      second = .ofDocument "\x7b\"email\":\"a@b.c\",\"password\":87654321\x7d" ∧
      first.Paired .available .empty .empty second ∧
      first.IsRefused
        "password: invalid type: integer `12345678`, expected a string at line 1 column 36" ∧
      second.IsRefused
        "password: invalid type: integer `87654321`, expected a string at line 1 column 36" ∧
      (Router.server.answer .orderly .sample first .empty).outcome ≠
        (Router.server.answer .orderly .sample second .empty).outcome ∧
      (Router.server.answer .orderly .sample first .empty).events ≠
        (Router.server.answer .orderly .sample second .empty).events ∧
      short = .ofDocument "\x7b\"password\":\"short\",\"email\":5\x7d" ∧
      long = .ofDocument "\x7b\"password\":\"muchlonger\",\"email\":5\x7d" ∧
      short.IsRefused "email: invalid type: integer `5`, expected a string at line 1 column 29" ∧
      long.IsRefused "email: invalid type: integer `5`, expected a string at line 1 column 34" := by
  have first : IsRefused (.ofDocument "\x7b\"email\":\"a@b.c\",\"password\":12345678\x7d")
      "password: invalid type: integer `12345678`, expected a string at line 1 column 36" :=
    isRefused_ofDocument (by decide +kernel)
  have second : IsRefused (.ofDocument "\x7b\"email\":\"a@b.c\",\"password\":87654321\x7d")
      "password: invalid type: integer `87654321`, expected a string at line 1 column 36" :=
    isRefused_ofDocument (by decide +kernel)
  refine ⟨_, _, _, _, rfl, rfl, .unread rfl first.unread second.unread, first, second,
    fun same => ?_, fun same => ?_, rfl, rfl, ?_, ?_⟩
  · exact absurd (first.unread.eq_of_outcome second.unread same) (by decide +kernel)
  · have logged := first.logged
    rw [same, second.logged] at logged
    exact absurd logged (by decide +kernel)
  · exact isRefused_ofDocument (by decide +kernel)
  · exact isRefused_ofDocument (by decide +kernel)

/-! ## Chains -/

namespace Answer.Alike

variable {first second : Answer}

theorem mapResponse (alike : first.Alike second) (change : Response → Response) :
    (first.mapResponse change).Alike (second.mapResponse change) where
  outcome := congrArg (Except.map change) alike.outcome
  events := alike.events
  state := alike.state

theorem contained_eq (alike : first.Alike second) : first.contained = second.contained := by
  rw [Answer.contained, Answer.contained, alike.outcome]

theorem counted_eq (alike : first.Alike second) : first.counted = second.counted := by
  rw [Answer.counted, Answer.counted, alike.outcome, alike.state.metrics]

end Answer.Alike

theorem State.Alike.entered {first second : State} (alike : first.Alike second) :
    first.entered.Alike second.entered where
  users := alike.users
  metrics := congrArg Metrics.enter alike.metrics

theorem Stage.alike_full {inner otherInner : Handler} {exchange other : Exchange}
    {state otherState : State} (arrival : other.arrival = exchange.arrival)
    (method : other.request.method = exchange.request.method) (path : other.path = exchange.path)
    (inside : (inner exchange.entered state.entered).Alike
      (otherInner other.entered otherState.entered)) :
    (full inner exchange state).Alike (full otherInner other otherState) := by
  rw [full_eq, full_eq, completion_congr arrival method path, spanOf_congr arrival method path,
    arrival, ← inside.contained_eq, ← inside.events]
  exact ⟨rfl, rfl, inside.state.users, inside.counted_eq⟩

theorem Destination.isBlind_inside {destination : Destination}
    (closed : ∀ route, destination ≠ .anyone route) (method : String) :
    (destination.inside method).IsBlind := by
  cases destination with
  | anyone route => exact absurd rfl (closed route)
  | probe | nowhere => exact Handler.isBlind_refuse _
  | guarded route values =>
      unfold inside
      dsimp only
      split
      · exact Stage.isBlind_guarded route.rule route.isBlind
      · exact Handler.isBlind_refuse _

namespace Router

variable {service : Service} {arrival : Arrival} {first second : Request} {state other : State}

theorem alike_of_inside (full : (Destination.ofPath (Target.path first.target)).isProbe = false)
    (method : first.method = second.method) (target : first.target = second.target)
    (inside :
      let destination := Destination.ofPath (Target.path first.target)
      (destination.inside first.method (Exchange.arriving service arrival first
        (.ofSegments destination.values)).entered state.entered).Alike
      (destination.inside first.method (Exchange.arriving service arrival second
        (.ofSegments destination.values)).entered other.entered)) :
    (server.answer service arrival first state).Alike
      (server.answer service arrival second other) := by
  rw [server_answer_of_full service arrival first state full,
    server_answer_of_full service arrival second other (target ▸ full), ← target, ← method]
  refine Answer.Alike.mapResponse ?_ _
  exact Stage.alike_full rfl method.symm (congrArg Target.path target.symm) inside

theorem alike_of_probe (alike : state.Alike other) {route : ProbeRoute}
    {values : List (String × String)}
    (leads : Destination.ofPath (Target.path first.target) = .probe route values) :
    (server.answer service arrival first state).Alike
      (server.answer service arrival first other) := by
  have blind : Handler.IsBlind
      (if Verb.get.accepts first.method then route.handler else .status 405) := by
    split
    · exact route.isBlind
    · exact Handler.isBlind_status 405
  rw [server_answer_of_probe service arrival first state leads,
    server_answer_of_probe service arrival first other leads]
  refine Answer.Alike.mapResponse ?_ _
  exact Answer.Alike.mapResponse (blind _ alike) _

theorem alike_of_closed (alike : state.Alike other)
    (closed : ∀ route, Destination.ofPath (Target.path first.target) ≠ .anyone route) :
    (server.answer service arrival first state).Alike
      (server.answer service arrival first other) := by
  cases full : (Destination.ofPath (Target.path first.target)).isProbe with
  | false =>
      exact alike_of_inside full rfl rfl
        (Destination.isBlind_inside closed first.method _ alike.entered)
  | true =>
      cases leads : Destination.ofPath (Target.path first.target) with
      | probe route values => exact alike_of_probe alike leads
      | anyone | guarded | nowhere => simp [leads, Destination.isProbe] at full

theorem alike_of_open (alike : state.Alike other)
    (requests : first.Alike service.availability state.directory other.directory second)
    {route : OpenRoute} (leads : Destination.ofPath (Target.path first.target) = .anyone route) :
    (server.answer service arrival first state).Alike
      (server.answer service arrival second other) := by
  apply alike_of_inside (by rw [leads]; rfl) requests.method requests.target
  dsimp only
  rw [leads]
  unfold Destination.inside
  dsimp only
  split
  · rename_i posted
    apply Endpoint.alike_handler alike.entered
    cases route with
    | login =>
        apply Endpoint.login_endAlike
        · rfl
        · rfl
        · exact alike.users
        · exact requests.login leads posted
    | register =>
        apply Endpoint.register_endAlike
        · rfl
        · rfl
        · exact alike.users
        · rfl
        · exact requests.register leads posted
  · exact alike.entered.respond _

theorem alike_answer (alike : state.Alike other)
    (requests : first.Alike service.availability state.directory other.directory second) :
    (server.answer service arrival first state).Alike
      (server.answer service arrival second other) := by
  by_cases closed : ∀ route, Destination.ofPath (Target.path first.target) ≠ .anyone route
  · cases requests.otherwise closed
    exact alike_of_closed alike closed
  · rcases not_forall_not.mp closed with ⟨route, leads⟩
    exact alike_of_open alike requests leads

end Router

/-! ## Runs -/

def Event.shown (event : Event) : Except Crash Response × List LogEvent :=
  (event.answer.outcome, event.answer.events)

structure Event.Alike (availability : Availability) (first second : Event) : Prop where
  arrival : first.arrival = second.arrival
  request : first.request.Alike availability first.before.directory second.before.directory
    second.request

structure Event.Paired (availability : Availability) (first second : Event) : Prop where
  arrival : first.arrival = second.arrival
  request : first.request.Paired availability first.before.directory second.before.directory
    second.request

theorem Event.Alike.paired {availability : Availability} {first second : Event}
    (alike : first.Alike availability second) : first.Paired availability second :=
  ⟨alike.arrival, .alike alike.request⟩

theorem Event.alike_meet {availability : Availability} {first second : Request}
    {state other : State}
    (requests : first.Alike availability state.directory other.directory second)
    (service : Service) (arrival : Arrival) :
    (service.meet arrival first state).Alike availability (service.meet arrival second other) :=
  ⟨rfl, requests⟩

theorem Run.alike {service : Service} {start otherStart state otherState : State}
    {history otherHistory : List Event} (run : Run service start history state)
    (otherRun : Run service otherStart otherHistory otherState) (alike : start.Alike otherStart)
    (events : List.Forall₂ (Event.Alike service.availability) history otherHistory) :
    history.map Event.shown = otherHistory.map Event.shown ∧ state.Alike otherState := by
  induction run generalizing otherHistory otherState with
  | start =>
      cases events
      cases otherRun
      exact ⟨rfl, alike⟩
  | @answer history state run arrival request induction =>
      -- The histories are equally long, so the second run has a last step as well.
      cases otherRun with
      | start => cases events
      | @answer otherHistory otherState otherRun otherArrival otherRequest =>
          rcases List.forall₂_cons.mp events with ⟨latest, earlier⟩
          rcases induction otherRun earlier with ⟨shown, states⟩
          have arrival : arrival = otherArrival := latest.arrival
          subst arrival
          have answers : (service.meet arrival request state).answer.Alike
              (service.meet arrival otherRequest otherState).answer :=
            Router.alike_answer states latest.request
          refine ⟨?_, answers.state⟩
          rw [List.map_cons, List.map_cons, shown, Event.shown, Event.shown, answers.outcome,
            answers.events]

theorem Run.alike_of_shown {service : Service} {start otherStart state otherState : State}
    {history otherHistory : List Event} (run : Run service start history state)
    (otherRun : Run service otherStart otherHistory otherState)
    (paired : List.Forall₂ (Event.Paired service.availability) history otherHistory)
    (same : history.map Event.shown = otherHistory.map Event.shown) :
    List.Forall₂ (Event.Alike service.availability) history otherHistory := by
  induction run generalizing otherHistory otherState with
  | start =>
      cases paired
      exact .nil
  | answer run arrival request induction =>
      cases otherRun with
      | start => cases paired
      | answer otherRun otherArrival otherRequest =>
          rcases List.forall₂_cons.mp paired with ⟨latest, earlier⟩
          rw [List.map_cons, List.map_cons, List.cons.injEq] at same
          have arrival : arrival = otherArrival := latest.arrival
          subst arrival
          have outcome := congrArg Prod.fst same.1
          exact .cons ⟨rfl, latest.request.alike_of_outcome outcome⟩
            (induction otherRun earlier same.2)

/-! ## Seeding -/

namespace Config

/-- Two sources of variables that differ in the password of the seed at most. It is set in both or
in neither. -/
structure SourcesAlike (lookup other : String → Option String) : Prop where
  password : setting lookup "SEED_ADMIN_PASSWORD" = none ↔
    setting other "SEED_ADMIN_PASSWORD" = none
  otherwise : ∀ key, key ≠ "SEED_ADMIN_PASSWORD" → lookup key = other key

def Alike (first second : Config) : Prop :=
  ∃ seed, second = { first with seedAdmin := seed } ∧
    first.seedAdmin.map SeedAdmin.email = seed.map SeedAdmin.email

theorem seedOf_endAlike (email : Option String) {password other : Option String}
    (same : password = none ↔ other = none) :
    EndAlike (fun first second => first.map SeedAdmin.email = second.map SeedAdmin.email)
      (seedOf email password) (seedOf email other) := by
  cases password with
  | none =>
      cases same.mp rfl
      cases email with
      | none => exact .done rfl
      | some email => exact .failed _
  | some password =>
      cases other with
      | none => cases same.mpr rfl
      | some other =>
          cases email with
          | none => exact .failed _
          | some email => exact .done rfl

theorem read_endAlike {lookup other : String → Option String} (alike : SourcesAlike lookup other) :
    EndAlike Alike (read lookup) (read other) := by
  have kept (key : String) (different : key ≠ "SEED_ADMIN_PASSWORD") :
      setting other key = setting lookup key := by
    rw [setting, setting, alike.otherwise key different]
  simp (disch := decide) only [read, settingOr, settingOrMissing, kept]
  apply EndAlike.bind_same
  intro host _
  apply EndAlike.bind_same
  intro port _
  apply EndAlike.bind_same
  intro activeKid _
  apply EndAlike.bind_same
  intro seconds _
  apply EndAlike.bind_same
  intro tokenLifetime _
  apply EndAlike.bind_same
  intro shutdownTimeout _
  apply EndAlike.bind_same
  intro readinessTimeout _
  apply EndAlike.bind_same
  intro origins _
  refine (seedOf_endAlike _ alike.password).bind ?_
  intro seed otherSeed email
  exact .done ⟨otherSeed, rfl, email⟩

end Config

theorem SeedAdmin.plant_endAlike {seed other : SeedAdmin} (email : seed.email = other.email)
    {directory otherDirectory : Directory} (same : directory.users = otherDirectory.users)
    (id : String) (now : Instant) :
    EndAlike (fun first second => first.1.users = second.1.users ∧ first.2 = second.2)
      (seed.plant directory id now) (other.plant otherDirectory id now) := by
  have name : seed.account.name = other.account.name := rfl
  have address : seed.account.email = other.account.email := email
  have roles : seed.account.roles = other.account.roles := rfl
  refine (Directory.register_endAlike same id now name address roles).map ?_
  rintro ⟨user, after⟩ ⟨otherUser, otherAfter⟩ ⟨rfl, kept⟩
  exact ⟨kept, rfl⟩

/-- Services that start alike: with the same events, and with the same failure or in states that
differ in passwords at most. -/
def Service.StartsAlike
    (first second : List LogEvent × Except StartupError (Service × State)) : Prop :=
  first.1 = second.1 ∧
    EndAlike (fun first second => first.1 = second.1 ∧ first.2.Alike second.2) first.2 second.2

theorem Service.startsAlike {config other : Config} (alike : config.Alike other)
    (surroundings : Surroundings) :
    StartsAlike (start config surroundings) (start other surroundings) := by
  rcases alike with ⟨otherSeed, rfl, email⟩
  unfold start
  dsimp only
  cases KeyFolder.load surroundings.files surroundings.keysFolder config.keysFolder
      config.activeKid with
  | error error => exact ⟨rfl, .failed _⟩
  | ok found =>
      rcases found with ⟨keys, loaded⟩
      dsimp only
      cases seeded : config.seedAdmin with
      | none =>
          rw [seeded] at email
          cases Option.map_eq_none_iff.mp email.symm
          exact ⟨rfl, .done ⟨rfl, rfl, rfl⟩⟩
      | some seed =>
          -- The passwords of the seeds decide nothing until a directory keeps them.
          rw [seeded] at email
          rcases Option.map_eq_some_iff.mp email.symm with ⟨other, rfl, same⟩
          dsimp only
          have planted := SeedAdmin.plant_endAlike same.symm (rfl : Directory.empty.users = _)
            surroundings.freshId surroundings.now
          generalize seed.plant .empty surroundings.freshId surroundings.now = first at planted ⊢
          generalize other.plant .empty surroundings.freshId surroundings.now = second at planted ⊢
          cases planted with
          | failed error => exact ⟨rfl, .failed _⟩
          | done agree =>
              exact ⟨congrArg (loaded ++ ·) agree.2, .done ⟨rfl, agree.1, rfl⟩⟩

theorem Server.launch_alike {config other : Config} (alike : config.Alike other)
    (surroundings : Surroundings) (bindFailure : Option IoError) :
    (launch config surroundings bindFailure).1 = (launch other surroundings bindFailure).1 ∧
      EndAlike (fun first second => second = { first with state := second.state })
        (launch config surroundings bindFailure).2 (launch other surroundings bindFailure).2 := by
  have started := Service.startsAlike alike surroundings
  rcases alike with ⟨otherSeed, rfl, -⟩
  unfold launch
  generalize Service.start config surroundings = first at started ⊢
  generalize Service.start _ surroundings = second at started ⊢
  rcases first with ⟨events, result⟩
  rcases second with ⟨otherEvents, otherResult⟩
  rcases started with ⟨rfl, results⟩
  dsimp only at results ⊢
  cases results with
  | failed error => exact ⟨rfl, .failed _⟩
  | @done first second agree =>
      rcases first with ⟨service, state⟩
      rcases second with ⟨otherService, otherState⟩
      rcases agree with ⟨rfl, -⟩
      cases bindFailure with
      | some error => exact ⟨rfl, .failed _⟩
      | none => exact ⟨rfl, .done rfl⟩

theorem Program.start_alike {config other : Config} (alike : config.Alike other)
    (surroundings : Surroundings) (bindFailure : Option IoError) :
    (start (.ok config) surroundings bindFailure).1 =
      (start (.ok other) surroundings bindFailure).1 := by
  have launched := Server.launch_alike alike surroundings bindFailure
  rcases alike with ⟨otherSeed, rfl, -⟩
  unfold start
  dsimp only
  generalize Server.launch config surroundings bindFailure = first at launched ⊢
  generalize Server.launch _ surroundings bindFailure = second at launched ⊢
  rcases first with ⟨events, result⟩
  rcases second with ⟨otherEvents, otherResult⟩
  rcases launched with ⟨rfl, results⟩
  dsimp only at results ⊢
  cases results <;> rfl

/-! ## Main result -/

/-- Passwords that are read as texts show neither in responses nor in the log. Two servers whose
accounts differ in passwords at most are asked the same but for passwords, and no check of a
password comes out differently. They show the same for every request exactly if no request has a
body that is not read, or if the complaints about those bodies are the same. A seed with another
password makes no difference to what is logged at the start, and leads to such a pair of servers.
Nor do diagnostics show the password of a new user or of the seed. -/
theorem passwords_show_only_unread {service : Service} {start otherStart state otherState : State}
    {history otherHistory : List Event} (alike : State.Alike start otherStart)
    (run : Run service start history state)
    (otherRun : Run service otherStart otherHistory otherState)
    (paired : List.Forall₂ (Event.Paired service.availability) history otherHistory) :
    (history.map Event.shown = otherHistory.map Event.shown ↔
      List.Forall₂ (Event.Alike service.availability) history otherHistory) ∧
    (∀ lookup other, Config.SourcesAlike lookup other → ∀ surroundings bindFailure,
      (Program.start (Config.read lookup) surroundings bindFailure).1 =
          (Program.start (Config.read other) surroundings bindFailure).1 ∧
        EndAlike (fun first second => Service.StartsAlike (Service.start first surroundings)
          (Service.start second surroundings)) (Config.read lookup) (Config.read other)) ∧
    (∀ (new : NewUser) password, { new with password }.redacted = new.redacted) ∧
    ∀ (seed : SeedAdmin) password, { seed with password }.redacted = seed.redacted := by
  refine ⟨⟨run.alike_of_shown otherRun paired, fun events => (run.alike otherRun alike events).1⟩,
    ?_, fun _ _ => rfl, fun _ _ => rfl⟩
  intro lookup other alike surroundings bindFailure
  have settings := Config.read_endAlike alike
  generalize Config.read lookup = first at settings ⊢
  generalize Config.read other = second at settings ⊢
  cases settings with
  | failed error => exact ⟨rfl, .failed error⟩
  | done agree =>
      exact ⟨Program.start_alike agree surroundings bindFailure,
        .done (Service.startsAlike agree surroundings)⟩

def Request.sampleOtherRegistration : Request where
  method := "POST"
  target := "/users/register"
  headers := [("content-type", Utf8.encode "application/json")]
  body := Utf8.encode ("\x7b\"name\":\"Ada\",\"email\":\"Ada@x.org\"," ++
    "\"password\":\"correct horse\",\"password_confirm\":\"correct horse\"\x7d")

theorem Request.registers_sampleOtherRegistration :
    sampleOtherRegistration.Registers ⟨"Ada", "Ada@x.org", "correct horse", "correct horse"⟩ where
  leads := by decide +kernel
  posted := rfl
  read := by decide +kernel

def Directory.sample (password : String) : Directory :=
  ⟨[("u", ⟨⟨"u", "Ada", "ada@x.org", .ofList [.user], .ofInstant .epoch⟩, password⟩)]⟩

theorem Directory.password_of_sample {password : String} {account : Account}
    (found : (sample password).accountOf? "ada@x.org" = some account) :
    account.password = password := by
  cases found
  rfl

theorem LoginRequest.alike_sample (password other : String) (some : password ≠ "")
    (otherSome : other ≠ "") :
    LoginRequest.Alike .available (.sample password) (.sample other) ⟨"ada@x.org", password⟩
      ⟨"ada@x.org", other⟩ where
  email := rfl
  empty := iff_of_false some otherSome
  compared := by
    have address : Email.normalize (Text.trim "ada@x.org") = "ada@x.org" := by decide +kernel
    dsimp only
    rw [address]
    intro _ _ account otherAccount known otherKnown
    exact iff_of_true (Directory.password_of_sample known)
      (Directory.password_of_sample otherKnown)

theorem passwords_show_only_unread_sample :
    ∃ history otherHistory state otherState, Run .orderly .empty history state ∧
      Run .orderly .empty otherHistory otherState ∧
      (∃ login ∈ history, ∃ token, login.answer.Responds 200 (tokenJson token)) ∧
      history.map Event.shown = otherHistory.map Event.shown := by
  have exists_registration (request : Request) :
      ∃ event, event = Service.orderly.meet .sample request .empty ∧
        Run .orderly .empty [event] event.answer.state := ⟨_, rfl, .answer .start _ _⟩
  rcases exists_registration .sampleRegistration with ⟨first, isFirst, firstRun⟩
  rcases exists_registration .sampleOtherRegistration with ⟨other, isOther, otherRun⟩
  have registrations : first.Alike .available other := by
    rw [isFirst, isOther]
    exact Event.alike_meet (Request.alike_of_registrations Request.registers_sampleRegistration
      Request.registers_sampleOtherRegistration rfl ⟨rfl, rfl, by decide, by decide⟩) _ _
  have kept : first.answer.state.directory = .sample "passw0rd" := by
    rw [isFirst]
    decide +kernel
  have otherKept : other.answer.state.directory = .sample "correct horse" := by
    rw [isOther]
    decide +kernel
  have asks := Request.asksLogin_ofLogin ⟨"ada@x.org", "passw0rd"⟩ (by decide +kernel)
  have otherAsks := Request.asksLogin_ofLogin ⟨"ada@x.org", "correct horse"⟩ (by decide +kernel)
  let login := Service.orderly.meet .sample (.ofLogin ⟨"ada@x.org", "passw0rd"⟩) first.answer.state
  let otherLogin :=
    Service.orderly.meet .sample (.ofLogin ⟨"ada@x.org", "correct horse"⟩) other.answer.state
  have logins : login.Alike .available otherLogin := by
    have alike := LoginRequest.alike_sample "passw0rd" "correct horse" (by decide) (by decide)
    rw [← kept, ← otherKept] at alike
    exact Event.alike_meet (Request.alike_of_logins asks otherAsks rfl alike) _ _
  have responds : ∃ token, login.answer.Responds 200 (tokenJson token) := by
    have member : ("u", ⟨⟨"u", "Ada", "ada@x.org", .ofList [.user], .ofInstant .epoch⟩,
        "passw0rd"⟩) ∈ first.answer.state.directory.accounts := by
      rw [kept]
      exact List.mem_singleton_self _
    have complete : LoginRequest.fieldErrors ⟨"ada@x.org", "passw0rd"⟩ = .empty := by
      decide +kernel
    have consistent := firstRun.isConsistent Directory.isConsistent_empty
    have later : 0 ≤ Arrival.sample.now.seconds + 1 := by decide
    rcases Service.responds_to_login Service.inOrder_orderly consistent member asks
      (by decide +kernel) (congrArg FieldErrors.result complete) rfl rfl later with
      ⟨token, -, responds, -⟩
    exact ⟨token, responds⟩
  exact ⟨_, _, _, _, .answer firstRun _ _, .answer otherRun _ _,
    ⟨login, List.mem_cons_self, responds⟩,
    (passwords_show_only_unread ⟨rfl, rfl⟩ (.answer firstRun _ _) (.answer otherRun _ _)
      (.cons logins.paired (.cons registrations.paired .nil))).1.mpr
        (.cons logins (.cons registrations .nil))⟩

end AuthServer
