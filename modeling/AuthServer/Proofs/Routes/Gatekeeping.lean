import AuthServer.Proofs.Routes.Gate
import AuthServer.Proofs.Token.Verification

/-!
The outcome of the guards for the whole table of routes: a request reaches the endpoint of a guarded
route exactly when its caller is verified and admitted there, and every other request is refused
with a status that tells why.
-/

namespace AuthServer

namespace Router

variable (service : Service) (arrival : Arrival) (request : Request) (state : State)

/-- A request is passed on to a guarded endpoint: whatever handler stands there, it sees the
exchange, and the full chain around it gives the answer. -/
def PassesOn (guarded : GuardedRoute) (exchange : Exchange) : Prop :=
  ∀ handlers : GuardedRoute → Handler,
    (serverWith handlers).answer service arrival request state =
      (Stage.full (fun _ => handlers guarded exchange)
        (.arriving service arrival request (.ok [])) state).mapResponse (finish request.method)

variable {service arrival request state}
variable {guarded : GuardedRoute} {exchange : Exchange} {values params : List (String × String)}
variable {claims : Claims}

theorem PassesOn.status? (passes : PassesOn service arrival request state guarded exchange)
    (handlers : GuardedRoute → Handler) :
    ((serverWith handlers).answer service arrival request state).status? =
      some (handlers guarded exchange state.entered).contained.status := by
  rw [passes handlers, Answer.status?_mapResponse (Response.status_finish request.method),
    Stage.status?_full]

/-- Where the status does not depend on the guarded endpoints, none of them is reached. -/
theorem not_passesOn
    (same : ∀ handlers others : GuardedRoute → Handler,
      ((serverWith handlers).answer service arrival request state).status? =
        ((serverWith others).answer service arrival request state).status?) :
    ¬PassesOn service arrival request state guarded exchange := by
  intro passes
  have statuses := same (fun _ => .status 200) (fun _ => .status 201)
  rw [passes.status?, passes.status?] at statuses
  change some 200 = some 201 at statuses
  simp at statuses

theorem not_passesOn_of_status {status : Nat}
    (fixed : ∀ handlers : GuardedRoute → Handler,
      ((serverWith handlers).answer service arrival request state).status? = some status) :
    ¬PassesOn service arrival request state guarded exchange :=
  not_passesOn fun handlers others => by rw [fixed, fixed]

theorem passesOn_of_admitted
    (leads : Destination.ofPath (Target.path request.target) = .guarded guarded values)
    (decoded : Params.ofSegments values = .ok params)
    (supported : guarded.verb.accepts request.method = true)
    (known : request.caller service.authenticator arrival.now = .ok claims)
    (admitted : guarded.rule.check claims (guarded.rule.ownerIn params) = .ok ()) :
    PassesOn service arrival request state guarded
      (.verified service arrival request (.ok params) claims) := by
  intro handlers
  rw [answer_of_guarded leads supported]
  apply congrArg (Answer.mapResponse (finish request.method))
  refine Stage.full_congr rfl rfl rfl ?_
  rw [guarded_verified handlers leads decoded known, admitted]

theorem PassesOn.unique {other : GuardedRoute} {otherExchange : Exchange}
    (passes : PassesOn service arrival request state guarded exchange)
    (passesOther : PassesOn service arrival request state other otherExchange) :
    other = guarded ∧ otherExchange = exchange := by
  classical
  let handlers : GuardedRoute → Handler := fun asked seen =>
    Handler.status (if asked = guarded ∧ seen = exchange then 200 else 201) seen
  have statuses := (passes.status? handlers).symm.trans (passesOther.status? handlers)
  by_cases same : other = guarded ∧ otherExchange = exchange
  · exact same
  · simp [handlers, Handler.status, Answer.respond, Answer.contained, Response.ofStatus, same]
      at statuses

theorem passesOn_iff
    (decodes : ∀ guarded values, Destination.ofPath (Target.path request.target) =
      .guarded guarded values → ∃ params, Params.ofSegments values = .ok params) :
    PassesOn service arrival request state guarded exchange ↔
      ∃ values params claims,
        Destination.ofPath (Target.path request.target) = .guarded guarded values ∧
        Params.ofSegments values = .ok params ∧
        guarded.verb.accepts request.method = true ∧
        request.caller service.authenticator arrival.now = .ok claims ∧
        guarded.rule.check claims (guarded.rule.ownerIn params) = .ok () ∧
        exchange = .verified service arrival request (.ok params) claims ∧
        exchange.claims = .ok claims := by
  constructor
  · intro passes
    cases leads : Destination.ofPath (Target.path request.target) with
    | anyone route =>
        exact absurd passes (not_passesOn fun handlers others => by
          rw [answer_of_unguarded others (.inl ⟨route, leads⟩)])
    | probe route values =>
        exact absurd passes (not_passesOn fun handlers others => by
          rw [answer_of_unguarded others (.inr ⟨route, values, leads⟩)])
    | nowhere =>
        exact absurd passes (not_passesOn_of_status fun handlers => status?_of_nowhere leads)
    | guarded actual values =>
        rcases decodes actual values leads with ⟨params, decoded⟩
        cases supported : actual.verb.accepts request.method with
        | false =>
            exact absurd passes (not_passesOn_of_status fun handlers =>
              status?_of_unsupported (.inr ⟨actual, values, leads, supported⟩))
        | true =>
            cases known : request.caller service.authenticator arrival.now with
            | error error =>
                exact absurd passes (not_passesOn_of_status fun handlers =>
                  status?_of_caller leads supported known)
            | ok claims =>
                cases admitted : actual.rule.check claims (actual.rule.ownerIn params) with
                | error denied =>
                    exact absurd passes (not_passesOn_of_status fun handlers =>
                      status?_of_denied leads supported decoded known admitted)
                | ok _ =>
                    rcases (passesOn_of_admitted leads decoded supported known admitted).unique
                      passes with ⟨rfl, same⟩
                    exact ⟨values, params, claims, rfl, decoded, supported, rfl, admitted, same,
                      by rw [same, Exchange.claims_verified]⟩
  · rintro ⟨values, params, claims, leads, decoded, supported, known, admitted, rfl, -⟩
    exact passesOn_of_admitted leads decoded supported known admitted

/-- The guards of the whole table. A request is passed on to a guarded endpoint exactly if its
caller is verified and admitted, and the endpoint then sees the verified claims. Of the others,
those who cannot be verified are told so first, and a path or a method that the table does not have
is a problem whoever asks. -/
theorem server_gatekeeping (service : Service) (arrival : Arrival) (request : Request)
    (state : State)
    (decodes : ∀ guarded values, Destination.ofPath (Target.path request.target) =
      .guarded guarded values → ∃ params, Params.ofSegments values = .ok params) :
    server = serverWith (fun guarded => guarded.endpoint.handler) ∧
    (∀ guarded exchange, PassesOn service arrival request state guarded exchange ↔
      ∃ values params claims,
        Destination.ofPath (Target.path request.target) = .guarded guarded values ∧
        Params.ofSegments values = .ok params ∧
        guarded.verb.accepts request.method = true ∧
        request.caller service.authenticator arrival.now = .ok claims ∧
        guarded.rule.check claims (guarded.rule.ownerIn params) = .ok () ∧
        exchange = .verified service arrival request (.ok params) claims ∧
        exchange.claims = .ok claims) ∧
    (∀ handlers guarded values,
      Destination.ofPath (Target.path request.target) = .guarded guarded values →
      guarded.verb.accepts request.method = true →
      (∀ error, request.caller service.authenticator arrival.now = .error error →
        ((serverWith handlers).answer service arrival request state).status? = some 401) ∧
      (∀ params claims denied, Params.ofSegments values = .ok params →
        request.caller service.authenticator arrival.now = .ok claims →
        guarded.rule.check claims (guarded.rule.ownerIn params) = .error denied →
        ((serverWith handlers).answer service arrival request state).status? = some 403)) ∧
    (∀ handlers,
      ((∃ route, Destination.ofPath (Target.path request.target) = .anyone route ∧
          request.method ≠ "POST") ∨
        ∃ guarded values, Destination.ofPath (Target.path request.target) =
          .guarded guarded values ∧ guarded.verb.accepts request.method = false) →
      ((serverWith handlers).answer service arrival request state).status? = some 405) ∧
    (∀ handlers, Destination.ofPath (Target.path request.target) = .nowhere →
      ((serverWith handlers).answer service arrival request state).status? = some 404) := by
  refine ⟨server_eq_serverWith, fun guarded exchange => passesOn_iff decodes, ?_, ?_, ?_⟩
  · intro handlers guarded values leads supported
    refine ⟨fun error unknown => status?_of_caller leads supported unknown, ?_⟩
    intro params claims denied decoded known refused
    exact status?_of_denied leads supported decoded known refused
  · exact fun handlers leads => status?_of_unsupported leads
  · exact fun handlers leads => status?_of_nowhere leads

end Router

namespace Service

def sample : Service := ⟨.sample, .available, .ready, 0⟩

end Service

def Arrival.sample : Arrival := ⟨.epoch, "t", "u", 0⟩

def Request.sample (token : String) : Request :=
  ⟨"GET", "/users/me", [("Authorization", Utf8.encode ("Bearer " ++ token))], []⟩

theorem Request.caller_of_issue_sample {request : Request} {token : String}
    (header : request.header? "authorization" = some (Utf8.encode ("Bearer " ++ token)))
    (issued : Authenticator.sample.issue "k" Authenticator.sampleClaims = .ok token) :
    request.caller .sample .epoch = .ok Authenticator.sampleClaims := by
  rcases Authenticator.of_issue issued with ⟨entry, key, -, -, encoded⟩
  rw [caller_of_header header (Token.isPrintable_encode encoded),
    Authenticator.authenticate_sample issued]

theorem Request.caller_sample {token : String}
    (issued : Authenticator.sample.issue "k" Authenticator.sampleClaims = .ok token) :
    (Request.sample token).caller .sample .epoch = .ok Authenticator.sampleClaims :=
  caller_of_issue_sample (header?_eq rfl (by decide +kernel)) issued

theorem Router.server_gatekeeping_sample :
    ∃ token, Router.PassesOn .sample .sample (.sample token) .empty .me
      (.verified .sample .sample (.sample token) (.ok []) Authenticator.sampleClaims) := by
  rcases Authenticator.exists_issue_sample with ⟨token, issued⟩
  have leads : Destination.ofPath (Target.path (Request.sample token).target) =
      .guarded .me [] := by
    change Destination.ofPath (Target.path "/users/me") = _
    decide +kernel
  have gate := server_gatekeeping .sample .sample (.sample token) .empty (by
    intro guarded values same
    rw [leads] at same
    cases same
    exact ⟨[], rfl⟩)
  refine ⟨token, (gate.2.1 _ _).mpr ⟨[], [], Authenticator.sampleClaims, leads, rfl, rfl, ?_⟩⟩
  exact ⟨Request.caller_sample issued, rfl, rfl, Exchange.claims_verified ..⟩

end AuthServer
