import AuthServer.Proofs.Endpoint.Body
import AuthServer.Proofs.Routes.Gate
import AuthServer.Proofs.Users.Directory

/-!
What comes of the endpoints: which of them hand out a token, for which claims, and what they change
in the directory. All but three do neither.
-/

namespace AuthServer

/-! ## Answers -/

namespace Answer

def Returns (answer : Answer) (token : String) : Prop :=
  ∃ response, answer.outcome = .ok response ∧ response.body = tokenJson token

/-- An answer without a token that leaves the directory as it was. -/
structure IsQuiet (answer : Answer) (directory : Directory) : Prop where
  tokenless : ∀ token, ¬answer.Returns token
  unchanged : answer.state.directory = directory

/-- An answer that adds no token to another one and remembers the same directory. -/
structure Follows (outer inner : Answer) : Prop where
  returns : ∀ token, outer.Returns token → inner.Returns token
  directory : outer.state.directory = inner.state.directory

theorem Follows.isQuiet {outer inner : Answer} {directory : Directory}
    (follows : outer.Follows inner) (quiet : inner.IsQuiet directory) :
    outer.IsQuiet directory where
  tokenless token returns := quiet.tokenless token (follows.returns token returns)
  unchanged := follows.directory.trans quiet.unchanged

theorem returns_ok {response : Response} {events : List LogEvent} {state : State}
    {token : String} : (Answer.mk (.ok response) events state).Returns token ↔
      response.body = tokenJson token := by
  simp [Returns]

theorem isQuiet_respond {response : Response} (tokenless : IsTokenless response.body)
    (state : State) : (respond response state).IsQuiet state.directory where
  tokenless token returns := tokenless token (returns_ok.mp returns)
  unchanged := rfl

theorem follows_mapResponse {change : Response → Response}
    (bodies : ∀ response, (change response).body = response.body ∨ (change response).body = "")
    (answer : Answer) : (answer.mapResponse change).Follows answer where
  returns := by
    rintro token ⟨changed, isResponse, body⟩
    unfold mapResponse at isResponse
    cases outcome : answer.outcome with
    | error crash => simp [outcome, Except.map] at isResponse
    | ok response =>
        simp only [outcome, Except.map, Except.ok.injEq] at isResponse
        subst isResponse
        rcases bodies response with kept | emptied
        · exact ⟨response, outcome, kept.symm.trans body⟩
        · exact absurd (emptied.symm.trans body) (isTokenless_empty token)
  directory := rfl

end Answer

/-! ## Endpoints -/

namespace Endpoint

variable {endpoint : Endpoint} {exchange : Exchange} {state : State} {directory : Directory}
variable {reply : Reply}

theorem of_orStop {α : Type} {result : Except Problem α} {value : α}
    (done : orStop result = .ok value) : result = .ok value :=
  of_mapError done

theorem of_call {α : Type} {availability : Availability} {result : Except DirectoryError α}
    {value : α} (done : availability.call result = .ok value) : result = .ok value := by
  cases availability with
  | available => exact of_mapError done
  | unavailable reason => cases done
  | crashing crash => cases done

theorem handler_cases (endpoint : Endpoint) (exchange : Exchange) (state : State) :
    (endpoint.handler exchange state).IsQuiet state.directory ∨
      ∃ reply, endpoint exchange state.directory = .ok reply ∧
        (∀ token, (endpoint.handler exchange state).Returns token →
          reply.response.body = tokenJson token) ∧
        (endpoint.handler exchange state).state.directory = reply.directory := by
  unfold handler
  cases done : endpoint exchange state.directory with
  | ok reply => exact .inr ⟨reply, rfl, fun token => Answer.returns_ok.mp, rfl⟩
  | error interruption =>
      refine .inl ?_
      cases interruption with
      | problem problem => exact Answer.isQuiet_respond (isTokenless_problem problem) state
      | crash crash => exact ⟨fun token returns => by simp [Answer.Returns] at returns, rfl⟩

theorem isQuiet_handler
    (quiet : ∀ reply, endpoint exchange state.directory = .ok reply →
      IsTokenless reply.response.body ∧ reply.directory = state.directory) :
    (endpoint.handler exchange state).IsQuiet state.directory := by
  rcases handler_cases endpoint exchange state with nothing | ⟨reply, done, returns, kept⟩
  · exact nothing
  · rcases quiet reply done with ⟨tokenless, unchanged⟩
    exact ⟨fun token found => tokenless token (returns token found), kept.trans unchanged⟩

theorem of_plain {respond : Exchange → Except Problem Response}
    (done : plain respond exchange directory = .ok reply) :
    ∃ response, respond exchange = .ok response ∧ reply = ⟨response, [], directory⟩ := by
  rcases of_map done with ⟨response, found, rfl⟩
  exact ⟨response, of_orStop found, rfl⟩

theorem isQuiet_plain {respond : Exchange → Except Problem Response}
    (tokenless : ∀ response, respond exchange = .ok response → IsTokenless response.body) :
    ((plain respond).handler exchange state).IsQuiet state.directory := by
  apply isQuiet_handler
  intro reply done
  rcases of_plain done with ⟨response, found, rfl⟩
  exact ⟨tokenless response found, rfl⟩

theorem isQuiet_claims {form : Claims → String} (tokenless : ∀ claims, IsTokenless (form claims)) :
    ((plain fun exchange => exchange.claims.map fun claims => .ofJson 200 (form claims)).handler
      exchange state).IsQuiet state.directory := by
  apply isQuiet_plain
  intro response found
  rcases of_map found with ⟨claims, -, rfl⟩
  exact tokenless claims

theorem of_requireContext {context : Context} (found : exchange.requireContext = .ok context) :
    exchange.context = some context :=
  of_elim found

theorem of_withParam {param : String} {proceed : String → Except Interruption Reply}
    (done : withParam exchange param directory proceed = .ok reply) :
    (∃ illFormed, exchange.params = .error illFormed ∧ reply =
        ⟨.ofText 400 s!"Invalid URL: {Exchange.illFormedParam illFormed}", [], directory⟩) ∨
      ∃ value, proceed value = .ok reply := by
  unfold withParam at done
  cases found : exchange.params with
  | error illFormed =>
      simp only [found, Except.ok.injEq] at done
      exact .inl ⟨illFormed, rfl, done.symm⟩
  | ok params =>
      simp only [found] at done
      exact .inr ⟨_, done⟩

/-! ## Replies -/

theorem reply_of_login (done : login exchange directory = .ok reply) :
    ∃ context request principal token, exchange.requireContext = .ok context ∧
      JsonBody.read LoginRequest.shape.read exchange.request = .ok request ∧
      directory.authenticate (Text.trim request.email) request.password = .ok principal ∧
      exchange.service.authenticator.issue exchange.service.authenticator.activeKid
        (exchange.service.authenticator.claimsFor principal context.now) = .ok token ∧
      reply = {
        response := .ofJson 200 (tokenJson token)
        events := [.plain .info .accounts "Token issued" [("trace_id", .plain context.traceId),
          ("user_id", .plain principal.id),
          ("kid", .plain exchange.service.authenticator.activeKid)]]
        directory } := by
  rcases of_bind done with ⟨context, entered, done⟩
  rcases of_bind done with ⟨request, read, done⟩
  rcases of_bind done with ⟨-, -, done⟩
  rcases of_bind done with ⟨principal, known, done⟩
  rcases of_bind done with ⟨token, issued, done⟩
  cases done
  exact ⟨context, request, principal, token, of_orStop entered, of_orStop read, of_call known,
    of_mapError (of_orStop issued), rfl⟩

theorem reply_of_register (done : register exchange directory = .ok reply) :
    ∃ context request user after, exchange.requireContext = .ok context ∧
      JsonBody.read RegisterRequest.shape.read exchange.request = .ok request ∧
      request.fieldErrors.result = .ok () ∧
      directory.register request.newUser exchange.arrival.freshId context.now =
        .ok (user, after) ∧
      reply = {
        response := .ofJson 201 user.json
        events := [.plain .info .accounts "User registered"
          [("trace_id", .plain context.traceId), ("user_id", .plain user.id)]]
        directory := after } := by
  rcases of_bind done with ⟨context, entered, done⟩
  rcases of_bind done with ⟨request, read, done⟩
  rcases of_bind done with ⟨⟨⟩, complete, done⟩
  rcases of_bind done with ⟨⟨user, after⟩, registered, done⟩
  cases done
  exact ⟨context, request, user, after, of_orStop entered, of_orStop read, of_orStop complete,
    of_call registered, rfl⟩

theorem reply_of_account (done : account exchange directory = .ok reply) :
    (∃ illFormed, exchange.params = .error illFormed ∧ reply =
        ⟨.ofText 400 s!"Invalid URL: {Exchange.illFormedParam illFormed}", [], directory⟩) ∨
      ∃ user : User, reply = ⟨.ofJson 200 user.json, [], directory⟩ := by
  rcases of_withParam done with illFormed | ⟨id, done⟩
  · exact .inl illFormed
  · rcases of_bind done with ⟨user, -, done⟩
    cases done
    exact .inr ⟨user, rfl⟩

theorem reply_of_reissue (done : reissue exchange directory = .ok reply) :
    (∃ illFormed, exchange.params = .error illFormed ∧ reply =
        ⟨.ofText 400 s!"Invalid URL: {Exchange.illFormedParam illFormed}", [], directory⟩) ∨
      ∃ context claims kid token, exchange.claims = .ok claims ∧
        exchange.service.authenticator.issue kid claims = .ok token ∧
        reply = {
          response := .ofJson 200 (tokenJson token)
          events := [.plain .info .tokens "Token re-issued" [
            ("trace_id", .plain (Context.traceId context)), ("sub", .plain claims.subject),
            ("kid", .plain kid)]]
          directory } := by
  rcases of_bind done with ⟨context, -, done⟩
  rcases of_bind done with ⟨claims, known, done⟩
  rcases of_withParam done with illFormed | ⟨kid, done⟩
  · exact .inl illFormed
  · rcases of_bind done with ⟨token, issued, done⟩
    cases done
    exact .inr ⟨context, claims, kid, token, of_orStop known, of_mapError (of_orStop issued), rfl⟩

end Endpoint

def Request.LogsIn (request : Request) (directory : Directory) (account : Account) : Prop :=
  ∃ login, JsonBody.read LoginRequest.shape.read request = .ok login ∧
    directory.accountOf? (Email.normalize (Text.trim login.email)) = some account ∧
    account.password = login.password

namespace Endpoint

variable {exchange : Exchange} {directory : Directory} {reply : Reply}

theorem of_login (done : login exchange directory = .ok reply) :
    reply.directory = directory ∧
      ∃ context account token, exchange.context = some context ∧
        exchange.request.LogsIn directory account ∧
        exchange.service.authenticator.issue exchange.service.authenticator.activeKid
          (exchange.service.authenticator.claimsFor account.user.principal context.now) =
            .ok token ∧
        reply.response = .ofJson 200 (tokenJson token) := by
  rcases reply_of_login done with ⟨context, request, principal, token, entered, read, known, issued,
    rfl⟩
  rcases Directory.of_authenticate known with ⟨account, found, password, rfl⟩
  exact ⟨rfl, context, account, token, of_requireContext entered, ⟨request, read, found, password⟩,
    issued, rfl⟩

/-- A registration enters whom the body asks for under the fresh id, and shows the user. -/
theorem of_register (done : register exchange directory = .ok reply) :
    ∃ context request user, exchange.context = some context ∧
      JsonBody.read RegisterRequest.shape.read exchange.request = .ok request ∧
      request.fieldErrors.result = .ok () ∧
      directory.register request.newUser exchange.arrival.freshId context.now =
        .ok (user, reply.directory) ∧
      reply.response = .ofJson 201 user.json := by
  rcases reply_of_register done with ⟨context, request, user, after, entered, read, complete,
    registered, rfl⟩
  exact ⟨context, request, user, of_requireContext entered, read, complete, registered, rfl⟩

theorem of_reissue (done : reissue exchange directory = .ok reply) :
    reply.directory = directory ∧
      ∀ token, reply.response.body = tokenJson token →
        ∃ claims kid, exchange.claims = .ok claims ∧
          exchange.service.authenticator.issue kid claims = .ok token := by
  rcases reply_of_reissue done with
    ⟨illFormed, -, rfl⟩ | ⟨context, claims, kid, token, known, issued, rfl⟩
  · exact ⟨rfl, fun token body => absurd body (isTokenless_illFormedParam illFormed token)⟩
  · refine ⟨rfl, fun other body => ⟨claims, kid, known, ?_⟩⟩
    rw [← tokenJson_injective body]
    exact issued

variable (exchange directory) in
theorem login_of_issue {context : Context} {request : LoginRequest} {principal : Principal}
    {token : String} (entered : exchange.requireContext = .ok context)
    (read : JsonBody.read LoginRequest.shape.read exchange.request = .ok request)
    (complete : request.fieldErrors.result = .ok ())
    (available : exchange.service.availability = .available)
    (known : directory.authenticate (Text.trim request.email) request.password = .ok principal)
    (issued : exchange.service.authenticator.issue exchange.service.authenticator.activeKid
      (exchange.service.authenticator.claimsFor principal context.now) = .ok token) :
    ∃ events, login exchange directory =
      .ok ⟨.ofJson 200 (tokenJson token), events, directory⟩ := by
  apply Exists.intro
  simp only [login, orStop, entered, mapError_ok, ok_bind, read, complete, available,
    Availability.call, known, issued]
  rfl

variable (exchange directory) in
theorem reissue_of_issue {context : Context} {claims : Claims} {params : List (String × String)}
    {token : String} (entered : exchange.requireContext = .ok context)
    (known : exchange.claims = .ok claims) (decoded : exchange.params = .ok params)
    (issued : exchange.service.authenticator.issue ((params.lookup "kid").getD "") claims =
      .ok token) :
    ∃ events, reissue exchange directory =
      .ok ⟨.ofJson 200 (tokenJson token), events, directory⟩ := by
  apply Exists.intro
  simp only [reissue, orStop, entered, mapError_ok, ok_bind, known, withParam, decoded, issued]
  rfl

end Endpoint

/-! ## Routes without an effect -/

/-- Of the guarded routes only the one that signs again hands out tokens. -/
theorem GuardedRoute.isQuiet {route : GuardedRoute} (other : route ≠ .reissue)
    (exchange : Exchange) (state : State) :
    (route.endpoint.handler exchange state).IsQuiet state.directory := by
  cases route with
  | reissue => exact absurd rfl other
  | me => exact Endpoint.isQuiet_claims Claims.isTokenless_selfJson
  | authenticate => exact Endpoint.isQuiet_claims Claims.isTokenless_json
  | authorize =>
      apply Endpoint.isQuiet_plain
      intro response found
      rcases of_bind found with ⟨request, -, found⟩
      rcases of_bind found with ⟨-, -, found⟩
      cases found
      exact isTokenless_empty
  | account =>
      apply Endpoint.isQuiet_handler
      intro reply done
      rcases Endpoint.reply_of_account done with ⟨illFormed, -, rfl⟩ | ⟨user, rfl⟩
      · exact ⟨isTokenless_illFormedParam illFormed, rfl⟩
      · exact ⟨user.isTokenless_json, rfl⟩
  | status | statusAuth =>
      change (Endpoint.status.handler exchange state).IsQuiet state.directory
      apply Endpoint.isQuiet_plain
      intro response found
      cases found
      exact isTokenless_objectText rfl (by decide)

theorem ProbeRoute.isQuiet (route : ProbeRoute) (exchange : Exchange) (state : State) :
    (route.handler exchange state).IsQuiet state.directory := by
  cases route with
  | liveness => exact Answer.isQuiet_respond isTokenless_empty state
  | readiness =>
      apply Endpoint.isQuiet_handler
      intro reply done
      rcases of_bind done with ⟨context, -, done⟩
      split at done <;> cases done <;> exact ⟨isTokenless_empty, rfl⟩
  | metrics => exact Answer.isQuiet_respond state.metrics.isTokenless_exposition state
  | redirect => exact Answer.isQuiet_respond isTokenless_empty state
  | index | page =>
      change (Endpoint.documentation exchange state).IsQuiet state.directory
      unfold Endpoint.documentation
      split
      · exact Answer.isQuiet_respond (isTokenless_illFormedParam _) state
      · split <;> exact Answer.isQuiet_respond isTokenless_empty state
  | description => exact Answer.isQuiet_respond isTokenless_empty state

end AuthServer
