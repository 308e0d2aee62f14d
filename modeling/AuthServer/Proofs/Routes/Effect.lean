import AuthServer.Proofs.Routes.Visit

/-!
What comes of one request, whatever it is: mostly nothing, and otherwise a login, a registration or
the signing of claims that were verified.
-/

namespace AuthServer

inductive Request.Effect (request : Request) (service : Service) (arrival : Arrival)
    (directory : Directory) (answer : Answer) : Prop where
  | nothing (quiet : answer.IsQuiet directory)
  | login (account : Account) (issued : String)
      (leads : Destination.ofPath (Target.path request.target) = .anyone .login)
      (posted : request.method = "POST")
      (known : request.LogsIn directory account)
      (issues : service.authenticator.issue service.authenticator.activeKid
        (service.authenticator.claimsFor account.user.principal arrival.now) = .ok issued)
      (returns : ∀ token, answer.Returns token → token = issued)
      (unchanged : answer.state.directory = directory)
  | registration (asked : RegisterRequest) (user : User)
      (entered : directory.register asked.newUser arrival.freshId arrival.now =
        .ok (user, answer.state.directory))
      (tokenless : ∀ token, ¬answer.Returns token)
  | reissue (values : List (String × String)) (claims : Claims)
      (leads : Destination.ofPath (Target.path request.target) = .guarded .reissue values)
      (known : request.caller service.authenticator arrival.now = .ok claims)
      (issues : ∀ token, answer.Returns token →
        ∃ kid, service.authenticator.issue kid claims = .ok token)
      (unchanged : answer.state.directory = directory)

namespace Request.Effect

variable {request : Request} {service : Service} {arrival : Arrival} {directory : Directory}
variable {answer : Answer}

theorem isConsistent (effect : request.Effect service arrival directory answer)
    (consistent : directory.IsConsistent) : answer.state.directory.IsConsistent := by
  cases effect with
  | nothing quiet => rwa [quiet.unchanged]
  | login account issued leads posted known issues returns unchanged => rwa [unchanged]
  | registration asked user entered tokenless => exact consistent.register entered
  | reissue values claims leads known issues unchanged => rwa [unchanged]

theorem reachable (effect : request.Effect service arrival directory answer)
    (reachable : directory.Reachable) : answer.state.directory.Reachable := by
  cases effect with
  | nothing quiet => rwa [quiet.unchanged]
  | login account issued leads posted known issues returns unchanged => rwa [unchanged]
  | registration asked user entered tokenless => exact reachable.register entered
  | reissue values claims leads known issues unchanged => rwa [unchanged]

theorem of_mem (effect : request.Effect service arrival directory answer) {id : String}
    {account : Account} (member : (id, account) ∈ answer.state.directory.accounts) :
    (id, account) ∈ directory.accounts ∨
      id = arrival.freshId ∧ account.user.roles = .ofList [.user] := by
  cases effect with
  | nothing quiet => exact .inl (quiet.unchanged ▸ member)
  | login other issued leads posted known issues returns unchanged =>
      exact .inl (unchanged ▸ member)
  | registration asked user entered tokenless =>
      rcases Directory.of_register entered with ⟨rfl, changed⟩
      rw [changed] at member
      rcases Directory.mem_insert.mp member with same | ⟨member, -⟩
      · cases same
        exact .inr ⟨rfl, rfl⟩
      · exact .inl member
  | reissue values claims leads known issues unchanged => exact .inl (unchanged ▸ member)

theorem mem (effect : request.Effect service arrival directory answer) {id : String}
    {account : Account} (member : (id, account) ∈ directory.accounts)
    (other : id ≠ arrival.freshId) : (id, account) ∈ answer.state.directory.accounts := by
  cases effect with
  | nothing quiet => rwa [quiet.unchanged]
  | login other issued leads posted known issues returns unchanged => rwa [unchanged]
  | registration asked user entered tokenless =>
      rw [(Directory.of_register entered).2]
      exact Directory.mem_insert.mpr (.inr ⟨member, other⟩)
  | reissue values claims leads known issues unchanged => rwa [unchanged]

end Request.Effect

namespace Visit

variable {visit : Visit} {state : State}

theorem follows_of_full (state : State) (full : visit.isFull = true) :
    (visit.answer state).Follows (visit.inside state.entered) where
  returns := by
    rintro token ⟨response, isResponse, body⟩
    rw [answer_of_full state full] at isResponse
    cases isResponse
    rw [body_deliver] at body
    split at body
    · exact absurd body (isTokenless_empty token)
    rw [Answer.contained] at body
    cases outcome : (visit.inside state.entered).outcome with
    | ok response =>
        simp only [outcome] at body
        exact ⟨response, outcome, body⟩
    | error crash =>
        simp only [outcome] at body
        exact absurd body (isTokenless_problem crash.problem token)
  directory := by rw [answer_of_full state full]

theorem isQuiet_of_reduced (reduced : visit.isFull = false) :
    (visit.answer state).IsQuiet state.directory := by
  have bodies : ∀ response, (visit.deliver response).body = response.body ∨
      (visit.deliver response).body = "" := by
    intro response
    rw [body_deliver]
    split
    · exact .inr rfl
    · exact .inl rfl
  cases leads : visit.destination with
  | anyone | guarded | nowhere => simp [isFull, leads, Destination.isProbe] at reduced
  | probe probe values =>
      rw [answer_of_reduced state leads]
      apply (Answer.follows_mapResponse bodies _).isQuiet
      split
      · exact probe.isQuiet _ state
      · exact Answer.isQuiet_respond isTokenless_empty state

section Full

variable (full : visit.isFull = true)
include full

theorem effect_of_open {route : OpenRoute} (leads : visit.destination = .anyone route)
    (posted : visit.request.method = "POST")
    (handed : visit.inside state.entered =
      route.endpoint.handler visit.exchange.entered state.entered) :
    visit.request.Effect visit.service visit.arrival state.directory (visit.answer state) := by
  have follows := follows_of_full state full
  rw [handed] at follows
  rcases Endpoint.handler_cases route.endpoint visit.exchange.entered state.entered with
    quiet | ⟨reply, done, returns, kept⟩
  · exact .nothing (follows.isQuiet quiet)
  cases route with
  | login =>
      rcases Endpoint.of_login done with
        ⟨unchanged, context, account, issued, entered, known, issues, response⟩
      cases entered
      refine .login account issued leads posted known issues ?_ ?_
      · intro token returned
        have same := returns token (follows.returns token returned)
        rw [response] at same
        exact tokenJson_injective same.symm
      · exact follows.directory.trans (kept.trans unchanged)
  | register =>
      rcases Endpoint.of_register done with
        ⟨context, asked, user, entered, -, -, registered, shown⟩
      cases entered
      rw [← kept, ← follows.directory] at registered
      refine .registration asked user registered fun token returned => ?_
      have body := returns token (follows.returns token returned)
      rw [shown] at body
      exact user.isTokenless_json token body

theorem effect_of_guarded {route : GuardedRoute} {values : List (String × String)} {claims : Claims}
    (leads : visit.destination = .guarded route values)
    (known : visit.request.caller visit.service.authenticator visit.arrival.now = .ok claims)
    (handed : visit.inside state.entered = route.endpoint.handler (.verified visit.service
      visit.arrival visit.request (.ofSegments values) claims) state.entered) :
    visit.request.Effect visit.service visit.arrival state.directory (visit.answer state) := by
  have follows := follows_of_full state full
  rw [handed] at follows
  by_cases reissue : route = .reissue
  · subst reissue
    rcases Endpoint.handler_cases GuardedRoute.reissue.endpoint
      (.verified visit.service visit.arrival visit.request (.ofSegments values) claims)
      state.entered with quiet | ⟨reply, done, returns, kept⟩
    · exact .nothing (follows.isQuiet quiet)
    rcases Endpoint.of_reissue done with ⟨unchanged, issues⟩
    refine .reissue values claims leads known ?_ ?_
    · intro token returned
      rcases issues token (returns token (follows.returns token returned)) with
        ⟨same, kid, sameFound, issued⟩
      cases sameFound
      exact ⟨kid, issued⟩
    · exact follows.directory.trans (kept.trans unchanged)
  · exact .nothing (follows.isQuiet (GuardedRoute.isQuiet reissue _ state.entered))

end Full

theorem effect (visit : Visit) (state : State) :
    visit.request.Effect visit.service visit.arrival state.directory (visit.answer state) := by
  cases full : visit.isFull with
  | false => exact .nothing (isQuiet_of_reduced full)
  | true =>
      rcases visit.inside_cases state.entered with ⟨problem, refused⟩ |
        ⟨route, leads, posted, handed⟩ | ⟨route, values, claims, leads, -, known, -, handed⟩
      · have follows := follows_of_full state full
        rw [refused] at follows
        exact .nothing (follows.isQuiet
          (Answer.isQuiet_respond (isTokenless_problem problem) state.entered))
      · exact effect_of_open full leads posted handed
      · exact effect_of_guarded full leads known handed

end Visit

theorem Router.server_effect (service : Service) (arrival : Arrival) (request : Request)
    (state : State) :
    request.Effect service arrival state.directory
      (server.answer service arrival request state) :=
  Visit.effect ⟨service, arrival, request⟩ state

end AuthServer
