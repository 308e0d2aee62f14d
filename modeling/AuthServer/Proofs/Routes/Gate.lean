import AuthServer.Proofs.Http.Message
import AuthServer.Proofs.Routes.Table
import AuthServer.Proofs.Stage.Chain
import AuthServer.Proofs.Token.Failure

/-!
Who gets to a guarded endpoint. Whatever handlers stand in the place of the guarded endpoints, they
are reached by exactly those requests whose caller is verified and admitted by the rule of the
route, and they see the claims that were verified.
-/

namespace AuthServer

/-- The claims of the caller of a request, from its first authorization header, which must be
printable. -/
def Request.caller (request : Request) (authenticator : Authenticator) (now : Instant) :
    Except AuthError Claims :=
  match request.header? "authorization" with
  | none => authenticator.authenticate none now
  | some value =>
      match headerText? value with
      | some text => authenticator.authenticate (some text) now
      | none => .error .malformedToken

theorem Request.caller_of_header {request : Request} {text : String}
    (header : request.header? "authorization" = some (Utf8.encode text))
    (printable : ∀ char ∈ text.toList, IsPrintable char) (authenticator : Authenticator)
    (now : Instant) :
    request.caller authenticator now = authenticator.authenticate (some text) now := by
  simp only [caller, header, headerText?_encode printable]

theorem Request.failsWith_caller (request : Request) (authenticator : Authenticator)
    (now : Instant) : FailsWith AuthError.IsCallersOwn (request.caller authenticator now) := by
  unfold caller
  split
  · exact authenticator.failsWith_authenticate none now
  split
  · exact authenticator.failsWith_authenticate _ now
  · exact .error rfl

namespace Exchange

def arriving (service : Service) (arrival : Arrival) (request : Request) (params : Params) :
    Exchange :=
  { service, arrival, request, path := Target.path request.target, params, context := none }

def verified (service : Service) (arrival : Arrival) (request : Request) (params : Params)
    (claims : Claims) : Exchange :=
  { arriving service arrival request params with
    context := some ⟨arrival.traceId, arrival.now, some claims⟩ }

theorem claims_verified (service : Service) (arrival : Arrival) (request : Request)
    (params : Params) (claims : Claims) :
    (verified service arrival request params claims).claims = .ok claims := rfl

theorem authenticate_eq (exchange : Exchange) (context : Context) :
    exchange.authenticate context =
      (exchange.request.caller exchange.service.authenticator context.now).mapError
        .ofAuthError := by
  unfold authenticate Request.caller
  cases exchange.request.header? "authorization" with
  | none => rfl
  | some value =>
      dsimp only
      cases headerText? value <;> rfl

end Exchange

/-! ## Guards -/

namespace Stage

variable {service : Service} {arrival : Arrival} {request : Request} {params : Params}
variable (rule : Rule) (inner : Handler) (state : State)

private theorem verified_entered : (Exchange.arriving service arrival request
      params).entered.requireContext.bind (fun context =>
        ((Exchange.arriving service arrival request params).entered.authenticate context).map
          fun claims => { context with claims := some claims }) =
    ((request.caller service.authenticator arrival.now).mapError .ofAuthError).map
      fun claims => ⟨arrival.traceId, arrival.now, some claims⟩ := by
  change ((Exchange.arriving service arrival request params).entered.authenticate
    ⟨arrival.traceId, arrival.now, none⟩).map _ = _
  rw [Exchange.authenticate_eq]
  rfl

theorem authenticate_of_error {error : AuthError}
    (unknown : request.caller service.authenticator arrival.now = .error error) :
    authenticate inner (Exchange.arriving service arrival request params).entered state =
      .respond (Problem.unauthenticated error).response state := by
  have own := request.failsWith_caller service.authenticator arrival.now error unknown
  have problem : Problem.ofAuthError error = .unauthenticated error := if_pos own
  rw [authenticate, verified_entered, unknown]
  simp only [mapError_error, Except.map, problem]

theorem authenticate_of_ok {claims : Claims}
    (known : request.caller service.authenticator arrival.now = .ok claims) :
    authenticate inner (Exchange.arriving service arrival request params).entered state =
      inner (Exchange.verified service arrival request params claims) state := by
  rw [authenticate, verified_entered, known]
  rfl

theorem guarded_of_error {error : AuthError}
    (unknown : request.caller service.authenticator arrival.now = .error error) :
    guarded rule inner (Exchange.arriving service arrival request params).entered state =
      .respond (Problem.unauthenticated error).response state :=
  authenticate_of_error (authorize rule inner) state unknown

theorem guarded_of_ok {claims : Claims}
    (known : request.caller service.authenticator arrival.now = .ok claims) :
    guarded rule inner (Exchange.arriving service arrival request params).entered state =
      authorize rule inner (Exchange.verified service arrival request params claims) state :=
  authenticate_of_ok (authorize rule inner) state known

variable {claims : Claims} {owner : Option String}

theorem authorize_verified (found : owner? rule params = .ok owner) :
    authorize rule inner (Exchange.verified service arrival request params claims) state =
      match rule.check claims owner with
      | .ok () => inner (Exchange.verified service arrival request params claims) state
      | .error denied => .respond (Problem.ofDenied denied).response state := by
  have asked : applyRule rule (Exchange.verified service arrival request params claims) =
      (rule.check claims owner).mapError .ofDenied := by
    change (owner? rule params >>= fun owner => (rule.check claims owner).mapError .ofDenied) = _
    rw [found]
    rfl
  unfold authorize
  rw [asked]
  cases rule.check claims owner <;> rfl

theorem authorize_of_ok (found : owner? rule params = .ok owner)
    (admitted : rule.check claims owner = .ok ()) :
    authorize rule inner (Exchange.verified service arrival request params claims) state =
      inner (Exchange.verified service arrival request params claims) state := by
  rw [authorize_verified rule inner state found, admitted]

/-- A guard answers with a problem, or hands a request over with the claims of its caller. -/
theorem guarded_cases :
    (∃ problem : Problem,
      guarded rule inner (Exchange.arriving service arrival request params).entered state =
        .respond problem.response state) ∨
      ∃ claims, request.caller service.authenticator arrival.now = .ok claims ∧
        applyRule rule (.verified service arrival request params claims) = .ok () ∧
        guarded rule inner (Exchange.arriving service arrival request params).entered state =
          inner (.verified service arrival request params claims) state := by
  cases known : request.caller service.authenticator arrival.now with
  | error error => exact .inl ⟨_, guarded_of_error rule inner state known⟩
  | ok claims =>
      rw [guarded_of_ok rule inner state known, authorize]
      cases admitted : applyRule rule (.verified service arrival request params claims) with
      | error problem => exact .inl ⟨problem, rfl⟩
      | ok _ => exact .inr ⟨claims, rfl, admitted, rfl⟩

end Stage

def Rule.ownerIn (rule : Rule) (params : List (String × String)) : Option String :=
  rule.ownerParam.bind fun param => params.lookup param

theorem Params.ofSegments_single (name segment : String) :
    Params.ofSegments [(name, segment)] =
      (Target.percentDecode? segment).elim (.error name) fun text => .ok [(name, text)] := by
  rw [ofSegments, List.mapM_cons]
  cases names : Target.percentDecode? segment <;> simp [names]

/-! ## The table behind the guards -/

namespace Router

variable {service : Service} {arrival : Arrival} {request : Request} {state : State}

theorem answer_of_find? {router : Router} {route : Route} {values : List (String × String)}
    (found : router.find? (Target.path request.target) = some (route, values)) :
    router.answer service arrival request state =
      (if route.verb.accepts request.method then
          route.handler (.arriving service arrival request (.ofSegments values)) state
        else
          (route.otherwise (.arriving service arrival request (.ofSegments values))
            state).mapResponse (Response.setHeader "allow" route.verb.allowed)).mapResponse
        (finish request.method) := by
  unfold answer
  simp only [found]
  rfl

theorem status?_of_find? {router : Router} {route : Route} {values : List (String × String)}
    (found : router.find? (Target.path request.target) = some (route, values))
    (unsupported : route.verb.accepts request.method = false) :
    (router.answer service arrival request state).status? =
      (route.otherwise (.arriving service arrival request (.ofSegments values)) state).status? := by
  rw [answer_of_find? found, if_neg (by simp [unsupported]),
    Answer.status?_mapResponse (Response.status_finish request.method),
    Answer.status?_mapResponse fun response => Response.status_setHeader _ _ response]

variable {handlers : GuardedRoute → Handler} {guarded : GuardedRoute}
variable {values : List (String × String)}

theorem answer_of_guarded
    (leads : Destination.ofPath (Target.path request.target) = .guarded guarded values)
    (supported : guarded.verb.accepts request.method = true) :
    (serverWith handlers).answer service arrival request state =
      (Stage.full (Stage.guarded guarded.rule (handlers guarded))
        (.arriving service arrival request (.ofSegments values)) state).mapResponse
          (finish request.method) := by
  have found := find?_serverWith handlers (Target.path request.target)
  rw [leads] at found
  rw [answer_of_find? found]
  exact congrArg (Answer.mapResponse (finish request.method)) (if_pos supported)

theorem status?_of_guarded
    (leads : Destination.ofPath (Target.path request.target) = .guarded guarded values)
    (supported : guarded.verb.accepts request.method = true) :
    ((serverWith handlers).answer service arrival request state).status? =
      some (Stage.guarded guarded.rule (handlers guarded)
        (Exchange.arriving service arrival request (.ofSegments values)).entered
        state.entered).contained.status := by
  rw [answer_of_guarded leads supported,
    Answer.status?_mapResponse (Response.status_finish request.method), Stage.status?_full]

theorem of_ofSegments {name segment : String} {params : List (String × String)}
    (decoded : Params.ofSegments [(name, segment)] = .ok params) :
    ∃ text, Target.percentDecode? segment = some text ∧ params = [(name, text)] := by
  rw [Params.ofSegments_single] at decoded
  cases found : Target.percentDecode? segment with
  | none => simp [found] at decoded
  | some text =>
      rw [found] at decoded
      cases decoded
      exact ⟨text, rfl, rfl⟩

theorem owner?_of_guarded {params : List (String × String)}
    (leads : Destination.ofPath (Target.path request.target) = .guarded guarded values)
    (decoded : Params.ofSegments values = .ok params) :
    Stage.owner? guarded.rule (.ofSegments values) = .ok (guarded.rule.ownerIn params) := by
  rw [decoded]
  cases guarded with
  | account =>
      rcases Destination.values_of_account leads with ⟨segment, rfl⟩
      rcases of_ofSegments decoded with ⟨text, -, rfl⟩
      rfl
  | _ => rfl

/-- The answer to a request that leads to a guarded route, by what is found of its caller. -/
theorem status?_of_caller {error : AuthError}
    (leads : Destination.ofPath (Target.path request.target) = .guarded guarded values)
    (supported : guarded.verb.accepts request.method = true)
    (unknown : request.caller service.authenticator arrival.now = .error error) :
    ((serverWith handlers).answer service arrival request state).status? = some 401 := by
  rw [status?_of_guarded leads supported, Stage.guarded_of_error _ _ _ unknown]
  rfl

section Verified

variable {params : List (String × String)} {claims : Claims}

variable (handlers) in
theorem guarded_verified
    (leads : Destination.ofPath (Target.path request.target) = .guarded guarded values)
    (decoded : Params.ofSegments values = .ok params)
    (known : request.caller service.authenticator arrival.now = .ok claims) (state : State) :
    Stage.guarded guarded.rule (handlers guarded)
        (Exchange.arriving service arrival request (.ofSegments values)).entered state =
      match guarded.rule.check claims (guarded.rule.ownerIn params) with
      | .ok () => handlers guarded (.verified service arrival request (.ok params) claims) state
      | .error denied => .respond (Problem.ofDenied denied).response state := by
  rw [Stage.guarded_of_ok _ _ _ known,
    Stage.authorize_verified _ _ _ (owner?_of_guarded leads decoded), decoded]

theorem status?_of_denied {denied : Denied}
    (leads : Destination.ofPath (Target.path request.target) = .guarded guarded values)
    (supported : guarded.verb.accepts request.method = true)
    (decoded : Params.ofSegments values = .ok params)
    (known : request.caller service.authenticator arrival.now = .ok claims)
    (refused : guarded.rule.check claims (guarded.rule.ownerIn params) = .error denied) :
    ((serverWith handlers).answer service arrival request state).status? = some 403 := by
  rw [status?_of_guarded leads supported, guarded_verified _ leads decoded known, refused]
  rfl

end Verified

theorem status?_of_unsupported
    (leads : (∃ route, Destination.ofPath (Target.path request.target) = .anyone route ∧
        request.method ≠ "POST") ∨
      ∃ route values, Destination.ofPath (Target.path request.target) = .guarded route values ∧
        route.verb.accepts request.method = false) :
    ((serverWith handlers).answer service arrival request state).status? = some 405 := by
  have found := find?_serverWith handlers (Target.path request.target)
  rcases leads with ⟨route, leads, notPost⟩ | ⟨route, values, leads, unsupported⟩
  · have unsupported : Verb.post.accepts request.method = false := by
      simpa [Verb.accepts] using notPost
    rw [leads] at found
    rw [status?_of_find? found unsupported, OpenRoute.route, Route.inFullChain,
      Stage.status?_full]
    rfl
  · rw [leads] at found
    rw [status?_of_find? found unsupported, GuardedRoute.route, Route.inFullChain,
      Stage.status?_full]
    rfl

theorem status?_of_nowhere
    (leads : Destination.ofPath (Target.path request.target) = .nowhere) :
    ((serverWith handlers).answer service arrival request state).status? = some 404 := by
  have found := find?_serverWith handlers (Target.path request.target)
  rw [leads] at found
  unfold answer
  simp only [found, Destination.route?]
  rw [Answer.status?_mapResponse (Response.status_finish request.method)]
  change (Stage.full (.refuse (.notFound "route not found")) _ state).status? = _
  rw [Stage.status?_full]
  rfl

theorem answer_of_unguarded (others : GuardedRoute → Handler)
    (leads : (∃ route, Destination.ofPath (Target.path request.target) = .anyone route) ∨
      ∃ route values, Destination.ofPath (Target.path request.target) = .probe route values) :
    (serverWith handlers).answer service arrival request state =
      (serverWith others).answer service arrival request state := by
  have found := find?_serverWith handlers (Target.path request.target)
  have foundOther := find?_serverWith others (Target.path request.target)
  rcases leads with ⟨route, leads⟩ | ⟨route, values, leads⟩
  · rw [leads] at found foundOther
    rw [answer_of_find? found, answer_of_find? foundOther]
  · rw [leads] at found foundOther
    rw [answer_of_find? found, answer_of_find? foundOther]

end Router

end AuthServer
