import AuthServer.Proofs.Routes.Failure
import AuthServer.Proofs.Run.Account

/-!
Failures that must look alike. What the causes of refusals and of internal failures are is for the
log only: two visits that fail with the same status of this kind get responses that nothing but
their traces tells apart. A caller who cannot be verified and a login that fits no account fail in
this way.
-/

namespace AuthServer

/-! ## Responses -/

namespace Response

def untraced (response : Response) : List (String × String) :=
  response.headers.filter (·.1 != "x-trace-id")

structure SharesHead (first second : Response) : Prop where
  status : first.status = second.status
  headers : first.untraced = second.untraced

structure LooksLike (first second : Response) : Prop extends first.SharesHead second where
  body : first.body = second.body

theorem untraced_trace (traceId : String) (response : Response) :
    (response.setHeader "x-trace-id" traceId).untraced = response.untraced := by
  simp [untraced, setHeader, List.filter_append, List.filter_filter]

theorem untraced_setHeader {name : String} (other : name ≠ "x-trace-id") (value : String)
    (response : Response) :
    (response.setHeader name value).untraced =
      response.untraced.filter (·.1 != name) ++ [(name, value)] := by
  simp [untraced, setHeader, List.filter_append, List.filter_filter, other, Bool.and_comm]

theorem untraced_finish (method : String) (response : Response) :
    (Router.finish method response).untraced =
      response.untraced.filter (·.1 != "content-length") ++
        [("content-length", toString response.body.utf8ByteSize)] := by
  rw [untraced, headers_finish]
  exact untraced_setHeader (by decide) _ response

namespace LooksLike

variable {first second : Response}

theorem trace (alike : first.LooksLike second) (firstTrace secondTrace : String) :
    (first.setHeader "x-trace-id" firstTrace).LooksLike
      (second.setHeader "x-trace-id" secondTrace) where
  status := alike.status
  headers := by rw [untraced_trace, untraced_trace, alike.headers]
  body := alike.body

theorem sharesHead_finish (alike : first.LooksLike second) (method otherMethod : String) :
    (Router.finish method first).SharesHead (Router.finish otherMethod second) where
  status := by rw [status_finish, status_finish, alike.status]
  headers := by rw [untraced_finish, untraced_finish, alike.headers, alike.body]

theorem finish (alike : first.LooksLike second) {method otherMethod : String}
    (whole : method = "HEAD" ↔ otherMethod = "HEAD") :
    (Router.finish method first).LooksLike (Router.finish otherMethod second) where
  toSharesHead := alike.sharesHead_finish method otherMethod
  body := by simp only [body_finish, whole, alike.body]

end LooksLike

end Response

/-! ## Problems -/

namespace Problem

/-- The statuses whose causes are not told to clients. -/
def hiddenStatuses : List Nat :=
  [401, 403, 500]

theorem envelope_of_hidden {first second : Problem} (same : first.status = second.status)
    (hidden : first.status ∈ hiddenStatuses) : first.envelope = second.envelope := by
  cases first <;> cases second <;> first | rfl | simp [status, hiddenStatuses] at same hidden

theorem looksLike_response {first second : Problem} (same : first.status = second.status)
    (hidden : first.status ∈ hiddenStatuses) : first.response.LooksLike second.response where
  status := same
  headers := rfl
  body := by
    change first.envelope.json = second.envelope.json
    rw [envelope_of_hidden same hidden]

end Problem

/-! ## Visits -/

def Answer.AnswersAlike (status : Nat) (first second : Answer) : Prop :=
  ∃ response other, first.outcome = .ok response ∧ second.outcome = .ok other ∧
    response.status = status ∧ response.LooksLike other

namespace Visit

variable {visit : Visit} {state : State} {response : Response}

theorem deliver_of_inside (full : visit.isFull = true)
    (supported : (visit.inside state).contained.status ≠ 405) :
    visit.deliver response = Router.finish visit.request.method
      (response.setHeader "x-trace-id" visit.arrival.traceId) := by
  -- Only a response to a method that the route does not support is told which ones it does.
  have allowed : ∀ response : Response,
      Destination.allow visit.destination.verb? visit.request.method response = response := by
    intro response
    unfold inside Destination.inside at supported
    cases leads : visit.destination with
    | nowhere => rfl
    | probe probe values => simp [isFull, leads, Destination.isProbe] at full
    | anyone route =>
        rw [leads] at supported
        by_cases posted : visit.request.method = "POST"
        · exact if_pos (beq_iff_eq.mpr posted)
        · simp only [if_neg posted] at supported
          exact absurd rfl supported
    | guarded route values =>
        rw [leads] at supported
        by_cases accepted : route.verb.accepts visit.request.method = true
        · exact if_pos accepted
        · simp only [if_neg accepted] at supported
          exact absurd rfl supported
  rw [deliver, Destination.dress, allowed]

theorem exists_problem_of_hidden
    (answered : (visit.answer state).outcome = .ok response)
    (hidden : response.status ∈ Problem.hiddenStatuses) :
    ∃ problem : Problem, problem.status = response.status ∧
      response = Router.finish visit.request.method
        (problem.response.setHeader "x-trace-id" visit.arrival.traceId) := by
  have listed : response.status = 401 ∨ response.status = 403 ∨ response.status = 500 := by
    simpa [Problem.hiddenStatuses] using hidden
  cases full : visit.isFull with
  | false =>
      -- The reduced chain answers with none of these statuses.
      rcases of_reduced state full with ⟨inner, outcome, isProbed, -⟩
      rw [outcome] at answered
      cases answered
      have probed := isProbed.status
      simp only [ProbeRoute.statuses, List.mem_cons, List.not_mem_nil, or_false,
        status_deliver] at probed listed
      omega
  | true =>
      rw [answer_of_full state full] at answered
      cases answered
      rw [status_deliver] at listed ⊢
      rcases visit.exists_problem state.entered (by omega) with ⟨problem, translated⟩
      refine ⟨problem, by rw [translated]; rfl, ?_⟩
      have supported : (visit.inside state.entered).contained.status ≠ 405 := by omega
      rw [deliver_of_inside full supported, translated]

/-- Two visits that are answered with the same hidden status are answered alike; of the answers to
HEAD requests this holds but for the body, which is not sent. -/
theorem alike_of_hidden {first second : Visit} {before other : State}
    {response otherResponse : Response} (answered : (first.answer before).outcome = .ok response)
    (otherAnswered : (second.answer other).outcome = .ok otherResponse)
    (same : response.status = otherResponse.status)
    (hidden : response.status ∈ Problem.hiddenStatuses) :
    response.SharesHead otherResponse ∧
      ((first.request.method = "HEAD" ↔ second.request.method = "HEAD") →
        response.LooksLike otherResponse) := by
  rcases exists_problem_of_hidden answered hidden with ⟨problem, status, rfl⟩
  rw [same] at hidden
  rcases exists_problem_of_hidden otherAnswered hidden with ⟨otherProblem, otherStatus, rfl⟩
  have agreed : problem.status = otherProblem.status := status.trans (same.trans otherStatus.symm)
  rw [← otherStatus, ← agreed] at hidden
  have alike := (Problem.looksLike_response agreed hidden).trace first.arrival.traceId
    second.arrival.traceId
  exact ⟨alike.sharesHead_finish _ _, fun whole => alike.finish whole⟩

theorem answersAlike {first second : Visit} {before other : State} {status : Nat}
    (hidden : status ∈ Problem.hiddenStatuses)
    (whole : first.request.method = "HEAD" ↔ second.request.method = "HEAD")
    (answered : (first.answer before).status? = some status)
    (otherAnswered : (second.answer other).status? = some status) :
    (first.answer before).AnswersAlike status (second.answer other) := by
  rcases Answer.of_status? answered with ⟨response, outcome, found⟩
  rcases Answer.of_status? otherAnswered with ⟨otherResponse, otherOutcome, otherFound⟩
  refine ⟨response, otherResponse, outcome, otherOutcome, found, ?_⟩
  exact (alike_of_hidden outcome otherOutcome (found.trans otherFound.symm)
    (found ▸ hidden)).2 whole

/-! ## Who is refused with 401 -/

structure IsUnverified (visit : Visit) (route : GuardedRoute) : Prop where
  leads : ∃ values, visit.destination = .guarded route values
  supported : route.verb.accepts visit.request.method = true
  unknown : ∃ error, visit.request.caller visit.service.authenticator visit.arrival.now =
    .error error

/-- A well-formed login that fits no account: nobody has its address, or whoever has it has another
password. -/
structure FailsToLogIn (visit : Visit) (directory : Directory) : Prop where
  available : visit.service.availability = .available
  unfit : ∃ login, visit.request.AsksLogin login ∧ login.fieldErrors.result = .ok () ∧
    ∀ account, directory.accountOf? (Email.normalize (Text.trim login.email)) = some account →
      account.password ≠ login.password

theorem IsUnverified.status? {route : GuardedRoute} (unverified : visit.IsUnverified route)
    (state : State) : (visit.answer state).status? = some 401 := by
  rcases unverified.leads with ⟨values, leads⟩
  rcases unverified.unknown with ⟨error, unknown⟩
  rw [answer, Router.server_eq_serverWith]
  exact Router.status?_of_caller leads unverified.supported unknown

theorem FailsToLogIn.status? (fails : visit.FailsToLogIn state.directory) :
    (visit.answer state).status? = some 401 := by
  rcases fails.unfit with ⟨login, asks, complete, unfit⟩
  have unknown : state.directory.authenticate (Text.trim login.email) login.password =
      .error .invalidCredentials := by
    unfold Directory.authenticate
    cases found : state.directory.accountOf? (Email.normalize (Text.trim login.email)) with
    | none => rfl
    | some account => exact if_neg (unfit account found)
  exact (Router.responds_of_unknown asks.leads asks.posted asks.read complete fails.available
    unknown).status?

/-! ## Main result -/

/-- Failures that must look alike do, with any two states of the server: those of callers who cannot
be verified, whatever is wrong with their headers, those of logins that fit no account, and those
that are forbidden or internal. To verify a caller never fails for an internal reason. -/
theorem failures_alike (first second : Visit) (before other : State) :
    (∀ route, first.IsUnverified route → second.IsUnverified route →
      first.request.method = second.request.method →
      (first.answer before).AnswersAlike 401 (second.answer other)) ∧
    (first.FailsToLogIn before.directory → second.FailsToLogIn other.directory →
      (first.answer before).AnswersAlike 401 (second.answer other)) ∧
    (∀ status ∈ [403, 500], ∀ response otherResponse,
      (first.answer before).outcome = .ok response → response.status = status →
      (second.answer other).outcome = .ok otherResponse → otherResponse.status = status →
      response.SharesHead otherResponse ∧
        ((first.request.method = "HEAD" ↔ second.request.method = "HEAD") →
          response.LooksLike otherResponse)) ∧
    (∀ inner : Handler,
      (∃ claims, Stage.authenticate inner first.exchange.entered before =
        inner (.verified first.service first.arrival first.request first.exchange.params claims)
          before) ∨
      ∃ error, Stage.authenticate inner first.exchange.entered before =
        .respond (Problem.unauthenticated error).response before) := by
  refine ⟨?_, ?_, ?_, ?_⟩
  · intro route unverified otherUnverified same
    exact answersAlike (by decide) (by rw [same]) (unverified.status? before)
      (otherUnverified.status? other)
  · intro fails otherFails
    have posted : first.request.method = second.request.method := by
      rcases fails.unfit with ⟨login, asks, -⟩
      rcases otherFails.unfit with ⟨otherLogin, otherAsks, -⟩
      rw [asks.posted, otherAsks.posted]
    exact answersAlike (by decide) (by rw [posted]) fails.status? otherFails.status?
  · intro status listed response otherResponse answered found otherAnswered otherFound
    have hidden : response.status ∈ Problem.hiddenStatuses := by
      rw [found]
      exact List.mem_cons_of_mem 401 listed
    exact alike_of_hidden answered otherAnswered (found.trans otherFound.symm) hidden
  · intro inner
    cases known : first.request.caller first.service.authenticator first.arrival.now with
    | ok claims => exact .inl ⟨claims, Stage.authenticate_of_ok inner before known⟩
    | error error => exact .inr ⟨error, Stage.authenticate_of_error inner before known⟩

end Visit

/-! ## Failures of every kind -/

def Visit.sample (request : Request) : Visit :=
  ⟨.sample, .sample, request⟩

def Service.bereft : Service := { Service.sample with availability := .unavailable "gone" }

def Account.sampleUser : Account :=
  ⟨⟨"u", "Ada", "ada@x.org", .ofList [.user], .ofInstant .epoch⟩, "passw0rd"⟩

def State.peopled : State :=
  ⟨⟨[("u", .sampleUser)]⟩, .zero⟩

theorem Visit.isUnverified_sample (headers : List (String × List UInt8))
    (unknown : ∃ error, (Request.mk "GET" "/users/me" headers []).caller .sample .epoch =
      .error error) :
    (Visit.sample ⟨"GET", "/users/me", headers, []⟩).IsUnverified .me where
  leads := by
    refine ⟨[], ?_⟩
    change Destination.ofPath (Target.path "/users/me") = _
    decide +kernel
  supported := rfl
  unknown := unknown

theorem Visit.status?_sample (target : String) (route : GuardedRoute)
    (values params : List (String × String)) {token : String} {denied : Denied}
    (issued : Authenticator.sample.issue "k" Authenticator.sampleClaims = .ok token)
    (leads : Destination.ofPath (Target.path target) = .guarded route values)
    (supported : route.verb.accepts "GET" = true) (decoded : Params.ofSegments values = .ok params)
    (refused : route.rule.check Authenticator.sampleClaims (route.rule.ownerIn params) =
      .error denied) :
    ((Visit.sample { Request.sample token with target }).answer .empty).status? = some 403 := by
  rw [answer, Router.server_eq_serverWith]
  exact Router.status?_of_denied leads supported decoded (Request.caller_sample issued) refused

/-- A header is missing or of another scheme, an address is unknown or a password wrong, a rule asks
for an admin or for the owner, the directory crashes or cannot be reached. -/
theorem Visit.failures_alike_sample :
    ((Visit.sample ⟨"GET", "/users/me", [], []⟩).answer .empty).AnswersAlike 401
      ((Visit.sample ⟨"GET", "/users/me", [("authorization", Utf8.encode "Basic x")], []⟩).answer
        .peopled) ∧
    ((Visit.sample (.ofLogin ⟨"a@b.c", "p"⟩)).answer .empty).AnswersAlike 401
      ((Visit.sample (.ofLogin ⟨"Ada@x.org", "p"⟩)).answer .peopled) ∧
    (∃ token,
      ((Visit.sample { Request.sample token with target := "/test" }).answer .empty).AnswersAlike
        403 ((Visit.sample { Request.sample token with target := "/users/u" }).answer .empty)) ∧
    ((Visit.mk .fragile .sample .sampleRegistration).answer .empty).AnswersAlike 500
      ((Visit.mk .bereft .sample .sampleRegistration).answer .empty) := by
  refine ⟨?_, ?_, ?_, ?_⟩
  · exact (failures_alike _ _ _ _).1 .me (isUnverified_sample [] ⟨.missingToken, by decide +kernel⟩)
      (isUnverified_sample _ ⟨.malformedToken, by decide +kernel⟩) rfl
  · refine (failures_alike _ _ _ _).2.1 ⟨rfl, ⟨"a@b.c", "p"⟩, ?_, ?_, ?_⟩
      ⟨rfl, ⟨"Ada@x.org", "p"⟩, ?_, ?_, ?_⟩
    · exact Request.asksLogin_ofLogin _ (by decide +kernel)
    · decide +kernel
    · intro account found
      cases found
    · exact Request.asksLogin_ofLogin _ (by decide +kernel)
    · decide +kernel
    · intro account found
      have known : State.peopled.directory.accountOf? (Email.normalize (Text.trim "Ada@x.org")) =
          some .sampleUser := by
        decide +kernel
      cases known.symm.trans found
      decide
  · rcases Authenticator.exists_issue_sample with ⟨token, issued⟩
    have admins := status?_sample "/test" .status [] [] issued (by decide +kernel) rfl rfl rfl
    have owners := status?_sample "/users/u" .account [("user_id", "u")] [("user_id", "u")] issued
      (by decide +kernel) rfl (by decide +kernel) rfl
    rcases Answer.of_status? admins with ⟨response, answered, found⟩
    rcases Answer.of_status? owners with ⟨otherResponse, otherAnswered, otherFound⟩
    exact ⟨token, response, otherResponse, answered, otherAnswered, found,
      ((failures_alike _ _ _ _).2.2.1 403 (by decide) _ _ answered found otherAnswered
        otherFound).2 Iff.rfl⟩
  · have crashes : ((Visit.mk .fragile .sample .sampleRegistration).answer .empty).status? =
        some 500 := by
      decide +kernel
    have misses : ((Visit.mk .bereft .sample .sampleRegistration).answer .empty).status? =
        some 500 := by
      decide +kernel
    rcases Answer.of_status? crashes with ⟨response, answered, found⟩
    rcases Answer.of_status? misses with ⟨otherResponse, otherAnswered, otherFound⟩
    exact ⟨response, otherResponse, answered, otherAnswered, found,
      ((failures_alike _ _ _ _).2.2.1 500 (by decide) _ _ answered found otherAnswered
        otherFound).2 Iff.rfl⟩

end AuthServer
