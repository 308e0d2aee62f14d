import AuthServer.Proofs.Endpoint.Effect
import AuthServer.Proofs.Endpoint.Validation
import AuthServer.Proofs.Routes.FullChain
import AuthServer.Proofs.Token.Session

/-!
What the routes for accounts answer: to a registration, to logins, to a caller who asks for itself
or for its account, and to an admin whose claims are signed again.
-/

namespace AuthServer

def Answer.Responds (answer : Answer) (status : Nat) (body : String) : Prop :=
  ∃ response, answer.outcome = .ok response ∧ response.status = status ∧ response.body = body

theorem Answer.Responds.status? {answer : Answer} {status : Nat} {body : String}
    (responds : answer.Responds status body) : answer.status? = some status := by
  rcases responds with ⟨response, outcome, same, -⟩
  rw [Answer.status?, outcome, ← same]

theorem Answer.Responds.returns {answer : Answer} {status : Nat} {token : String}
    (responds : answer.Responds status (tokenJson token)) : answer.Returns token := by
  rcases responds with ⟨response, outcome, -, body⟩
  exact ⟨response, outcome, body⟩

theorem Answer.Wraps.responds_eq {outer inner : Answer} (wraps : outer.Wraps inner)
    (response : Response) (contained : inner.contained = response) :
    outer.Responds response.status response.body := by
  rcases wraps.responds with ⟨dressed, outcome, dresses⟩
  rw [contained] at dresses
  exact ⟨dressed, outcome, dresses.status, dresses.body⟩

/-! ## Endpoints -/

namespace Endpoint

variable {exchange : Exchange}

theorem handler_of_reply {endpoint : Endpoint} {state : State} {reply : Reply}
    (done : endpoint exchange state.directory = .ok reply) :
    endpoint.handler exchange state =
      ⟨.ok reply.response, reply.events, { state with directory := reply.directory }⟩ := by
  rw [handler, done]

theorem of_handler {endpoint : Endpoint} {state : State}
    (succeeded : (endpoint.handler exchange state).contained.status < 400) :
    ∃ reply, endpoint exchange state.directory = .ok reply ∧
      (endpoint.handler exchange state).contained = reply.response ∧
      (endpoint.handler exchange state).state.directory = reply.directory := by
  unfold handler at succeeded ⊢
  cases done : endpoint exchange state.directory with
  | ok reply => exact ⟨reply, rfl, rfl, rfl⟩
  | error interruption =>
      have failed : ∀ problem : Problem, ¬ problem.status < 400 := by
        intro problem
        cases problem <;> simp [Problem.status]
      simp only [done] at succeeded
      cases interruption with
      | problem problem => exact absurd succeeded (failed problem)
      | crash crash => exact absurd succeeded (failed crash.problem)

variable {directory : Directory} {context : Context} {request : LoginRequest}

theorem login_of_unknown (entered : exchange.requireContext = .ok context)
    (read : JsonBody.read LoginRequest.shape.read exchange.request = .ok request)
    (complete : request.fieldErrors.result = .ok ())
    (available : exchange.service.availability = .available)
    (unknown : directory.authenticate (Text.trim request.email) request.password =
      .error .invalidCredentials) :
    login exchange directory = .error (.problem (.unauthenticated .invalidCredentials)) := by
  simp only [login, orStop, entered, mapError_ok, ok_bind, read, complete, available,
    Availability.call, unknown, mapError_error, error_bind, DirectoryError.problem]

theorem login_of_incomplete {problem : Problem} (entered : exchange.requireContext = .ok context)
    (read : JsonBody.read LoginRequest.shape.read exchange.request = .ok request)
    (incomplete : request.fieldErrors.result = .error problem) :
    login exchange directory = .error (.problem problem) := by
  simp only [login, orStop, entered, mapError_ok, ok_bind, read, incomplete, mapError_error,
    error_bind]

end Endpoint

namespace Router

variable {service : Service} {arrival : Arrival} {request : Request} {state : State}

theorem wraps_of_open {route : OpenRoute}
    (leads : Destination.ofPath (Target.path request.target) = .anyone route)
    (posted : request.method = "POST") :
    (server.answer service arrival request state).Wraps
      (route.endpoint.handler (Exchange.arriving service arrival request (.ok [])).entered
        state.entered) := by
  have wraps := server_wraps service arrival request state (by simp [posted]) (by simp [leads])
  simp only [leads, Destination.inside, if_pos posted] at wraps
  exact wraps

theorem wraps_of_admitted {route : GuardedRoute} {values params : List (String × String)}
    {claims : Claims}
    (leads : Destination.ofPath (Target.path request.target) = .guarded route values)
    (supported : route.verb.accepts request.method = true) (whole : request.method ≠ "HEAD")
    (decoded : Params.ofSegments values = .ok params)
    (known : request.caller service.authenticator arrival.now = .ok claims)
    (admitted : route.rule.check claims (route.rule.ownerIn params) = .ok ()) :
    (server.answer service arrival request state).Wraps
      (route.endpoint.handler (.verified service arrival request (.ok params) claims)
        state.entered) := by
  have wraps := server_wraps service arrival request state whole (by simp [leads])
  simp only [leads, Destination.inside, if_pos supported, Destination.values] at wraps
  rw [guarded_verified (fun guarded => guarded.endpoint.handler) leads decoded known,
    admitted] at wraps
  exact wraps

theorem wraps_of_got {route : GuardedRoute} {values params : List (String × String)}
    {claims : Claims}
    (leads : Destination.ofPath (Target.path request.target) = .guarded route values)
    (gettable : route.verb = .get) (got : request.method = "GET")
    (decoded : Params.ofSegments values = .ok params)
    (known : request.caller service.authenticator arrival.now = .ok claims)
    (admitted : route.rule.check claims (route.rule.ownerIn params) = .ok ()) :
    (server.answer service arrival request state).Wraps
      (route.endpoint.handler (.verified service arrival request (.ok params) claims)
        state.entered) := by
  have supported : route.verb.accepts request.method = true := by
    rw [gettable, got]
    decide
  exact wraps_of_admitted leads supported (by simp [got]) decoded known admitted

/-! ## Registering -/

theorem of_created {body : String}
    (leads : Destination.ofPath (Target.path request.target) = .anyone .register)
    (posted : request.method = "POST")
    (created : (server.answer service arrival request state).Responds 201 body) :
    ∃ asked user, JsonBody.read RegisterRequest.shape.read request = .ok asked ∧
      asked.fieldErrors.result = .ok () ∧
      state.directory.register asked.newUser arrival.freshId arrival.now =
        .ok (user, (server.answer service arrival request state).state.directory) ∧
      body = user.json := by
  have wraps : (server.answer service arrival request state).Wraps _ := wraps_of_open leads posted
  rcases wraps.responds with ⟨response, outcome, dresses⟩
  rcases created with ⟨same, outcomeAgain, isCreated, rfl⟩
  cases outcome.symm.trans outcomeAgain
  have succeeded : (Endpoint.register.handler
      (Exchange.arriving service arrival request (.ok [])).entered
      state.entered).contained.status < 400 := by
    have shown := dresses.status
    rw [isCreated] at shown
    change 201 = (Endpoint.register.handler _ _).contained.status at shown
    omega
  rcases Endpoint.of_handler succeeded with ⟨reply, done, contained, kept⟩
  rcases Endpoint.of_register done with
    ⟨context, asked, user, entered, read, complete, registered, shown⟩
  cases entered
  refine ⟨asked, user, read, complete, ?_, ?_⟩
  · rw [wraps.directory]
    change _ = Except.ok (user, (Endpoint.register.handler _ _).state.directory)
    rw [kept]
    exact registered
  · rw [dresses.body]
    change (Endpoint.register.handler _ _).contained.body = _
    rw [contained, shown]
    rfl

/-! ## Open routes -/

section Open

variable {route : OpenRoute}
variable (leads : Destination.ofPath (Target.path request.target) = .anyone route)
  (posted : request.method = "POST")

include leads posted

theorem responds_of_interrupted {problem : Problem}
    (interrupted : route.endpoint (Exchange.arriving service arrival request (.ok [])).entered
      state.directory = .error (.problem problem)) :
    (server.answer service arrival request state).Responds problem.status
      problem.envelope.json := by
  apply (wraps_of_open leads posted).responds_eq problem.response
  rw [Endpoint.handler, State.entered, interrupted]
  rfl

theorem responds_of_reply {reply : Reply}
    (done : route.endpoint (Exchange.arriving service arrival request (.ok [])).entered
      state.directory = .ok reply) :
    (server.answer service arrival request state).Responds reply.response.status
        reply.response.body ∧
      (server.answer service arrival request state).state.directory = reply.directory := by
  have wraps : (server.answer service arrival request state).Wraps _ := wraps_of_open leads posted
  have handled : route.endpoint.handler _ state.entered = _ := Endpoint.handler_of_reply done
  rw [handled] at wraps
  exact ⟨wraps.responds_eq reply.response rfl, wraps.directory⟩

end Open

/-! ## Logging in -/

section Login

variable {login : LoginRequest}
variable (leads : Destination.ofPath (Target.path request.target) = .anyone .login)
  (posted : request.method = "POST")
  (read : JsonBody.read LoginRequest.shape.read request = .ok login)

include leads posted read

theorem responds_of_known {principal : Principal} {token : String}
    (complete : login.fieldErrors.result = .ok ())
    (available : service.availability = .available)
    (known : state.directory.authenticate (Text.trim login.email) login.password = .ok principal)
    (issued : service.authenticator.issue service.authenticator.activeKid
      (service.authenticator.claimsFor principal arrival.now) = .ok token) :
    (server.answer service arrival request state).Responds 200 (tokenJson token) := by
  rcases Endpoint.login_of_issue
    (Exchange.arriving service arrival request (.ok [])).entered state.directory rfl read
    complete available known issued with ⟨events, done⟩
  exact (responds_of_reply leads posted done).1

theorem responds_of_unknown (complete : login.fieldErrors.result = .ok ())
    (available : service.availability = .available)
    (unknown : state.directory.authenticate (Text.trim login.email) login.password =
      .error .invalidCredentials) :
    (server.answer service arrival request state).Responds 401
      (Problem.unauthenticated .invalidCredentials).envelope.json :=
  responds_of_interrupted leads posted
    (Endpoint.login_of_unknown rfl read complete available unknown)

end Login

/-! ## Asking for oneself -/

section Session

variable {claims : Claims}

theorem responds_of_me
    (leads : Destination.ofPath (Target.path request.target) = .guarded .me [])
    (got : request.method = "GET")
    (known : request.caller service.authenticator arrival.now = .ok claims) :
    (server.answer service arrival request state).Responds 200 claims.selfJson :=
  (wraps_of_got leads rfl got rfl known rfl).responds_eq (.ofJson 200 claims.selfJson) rfl

theorem responds_of_account {segment : String} {user : User}
    (leads : Destination.ofPath (Target.path request.target) =
      .guarded .account [("user_id", segment)])
    (got : request.method = "GET") (names : Target.percentDecode? segment = some user.id)
    (known : request.caller service.authenticator arrival.now = .ok claims)
    (own : claims.subject = user.id) (available : service.availability = .available)
    (found : state.directory.find user.id = .ok user) :
    (server.answer service arrival request state).Responds 200 user.json := by
  have decoded : Params.ofSegments [("user_id", segment)] = .ok [("user_id", user.id)] := by
    rw [Params.ofSegments_single, names]
    rfl
  have admitted : GuardedRoute.account.rule.check claims
      (GuardedRoute.account.rule.ownerIn [("user_id", user.id)]) = .ok () := by
    have owns : claims.ownsOrAdmin user.id = true := by simp [Claims.ownsOrAdmin, own]
    exact if_pos owns
  have done : Endpoint.account
      (.verified service arrival request (.ok [("user_id", user.id)]) claims) state.directory =
      .ok ⟨.ofJson 200 user.json, [], state.directory⟩ := by
    change (service.availability.call (state.directory.find user.id) >>= fun user =>
      (pure ⟨.ofJson 200 user.json, [], state.directory⟩ : Except Interruption Reply)) = _
    rw [available, found]
    rfl
  apply (wraps_of_got leads rfl got decoded known admitted).responds_eq (.ofJson 200 user.json)
  change (Endpoint.account.handler _ state.entered).contained = _
  rw [Endpoint.handler, State.entered, done]
  rfl

theorem responds_of_reissue {values params : List (String × String)} {token : String}
    (leads : Destination.ofPath (Target.path request.target) = .guarded .reissue values)
    (decoded : Params.ofSegments values = .ok params) (got : request.method = "GET")
    (known : request.caller service.authenticator arrival.now = .ok claims)
    (admin : claims.hasRole .admin = true)
    (issued : service.authenticator.issue ((params.lookup "kid").getD "") claims = .ok token) :
    (server.answer service arrival request state).Responds 200 (tokenJson token) := by
  rcases Endpoint.reissue_of_issue (.verified service arrival request (.ok params) claims)
    state.directory rfl rfl rfl issued with ⟨events, done⟩
  have admitted : GuardedRoute.reissue.rule.check claims
      (GuardedRoute.reissue.rule.ownerIn params) = .ok () := if_pos admin
  apply (wraps_of_got leads rfl got decoded known admitted).responds_eq
    (.ofJson 200 (tokenJson token))
  change (Endpoint.reissue.handler _ state.entered).contained = _
  rw [Endpoint.handler, State.entered, done]
  rfl

end Session

end Router

end AuthServer
