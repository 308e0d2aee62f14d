import AuthServer.Proofs.Endpoint.Effect
import AuthServer.Proofs.Endpoint.Validation
import AuthServer.Proofs.Problem.Envelope
import AuthServer.Proofs.Routes.FullChain
import AuthServer.Proofs.Routes.Gatekeeping
import AuthServer.Proofs.Routes.Visit

/-!
How the full chain fails. Whoever refuses a request, a guard, a reader of the body, the directory or
a crash, its reason becomes a problem, and the client is sent the response of that problem. One
endpoint alone answers for itself: an admin who asks for a token under an id that is no text is told
so in plain text, and nothing is recorded.
-/

namespace AuthServer

/-- If the response is a failure, it is what some problem is translated to. -/
def Response.IsTranslated (response : Response) : Prop :=
  400 ≤ response.status → ∃ problem : Problem, response = problem.response

theorem Problem.isTranslated_response (problem : Problem) : problem.response.IsTranslated :=
  fun _ => ⟨problem, rfl⟩

/-! ## Endpoints -/

namespace Endpoint

variable {exchange : Exchange} {directory : Directory} {reply : Reply}

def Succeeds (endpoint : Endpoint) (exchange : Exchange) : Prop :=
  ∀ directory reply, endpoint exchange directory = .ok reply → reply.response.status < 400

/-- Interruptions are translated, so that only a reply could be a failure of another kind. -/
theorem exists_problem_of_handler {endpoint : Endpoint} {limit : Nat} {state : State}
    (below : ∀ reply, endpoint exchange state.directory = .ok reply →
      reply.response.status < limit)
    (failed : limit ≤ (endpoint.handler exchange state).contained.status) :
    ∃ problem : Problem, (endpoint.handler exchange state).contained = problem.response := by
  unfold handler at failed ⊢
  cases done : endpoint exchange state.directory with
  | ok reply =>
      rw [done] at failed
      exact absurd failed (Nat.not_le.mpr (below reply done))
  | error interruption =>
      cases interruption with
      | problem problem => exact ⟨problem, rfl⟩
      | crash crash => exact ⟨crash.problem, rfl⟩

theorem isTranslated_handler {endpoint : Endpoint} (succeeds : endpoint.Succeeds exchange)
    (state : State) : (endpoint.handler exchange state).contained.IsTranslated :=
  exists_problem_of_handler (succeeds _)

theorem succeeds_login (exchange : Exchange) : login.Succeeds exchange := by
  intro directory reply done
  rcases of_login done with ⟨-, context, account, token, -, -, -, response⟩
  rw [response]
  exact (by decide : 200 < 400)

theorem succeeds_register (exchange : Exchange) : register.Succeeds exchange := by
  intro directory reply done
  rcases of_register done with ⟨context, request, user, -, -, -, -, response⟩
  rw [response]
  exact (by decide : 201 < 400)

theorem succeeds_plain {respond : Exchange → Except Problem Response}
    (succeeds : ∀ response, respond exchange = .ok response → response.status < 400) :
    (plain respond).Succeeds exchange := by
  intro directory reply done
  rcases of_plain done with ⟨response, found, rfl⟩
  exact succeeds response found

theorem succeeds_claims {form : Claims → String} (exchange : Exchange) :
    (plain fun exchange => exchange.claims.map fun claims => .ofJson 200 (form claims)).Succeeds
      exchange := by
  apply succeeds_plain
  intro response found
  rcases of_map found with ⟨claims, -, rfl⟩
  exact (by decide : 200 < 400)

theorem succeeds_authorize (exchange : Exchange) : authorize.Succeeds exchange := by
  apply succeeds_plain
  intro response found
  rcases of_bind found with ⟨request, -, found⟩
  rcases of_bind found with ⟨-, -, found⟩
  cases found
  exact (by decide : 204 < 400)

theorem succeeds_status (exchange : Exchange) : status.Succeeds exchange := by
  apply succeeds_plain
  intro response found
  cases found
  exact (by decide : 200 < 400)

variable {params : List (String × String)}

theorem succeeds_account (decoded : exchange.params = .ok params) : account.Succeeds exchange := by
  intro directory reply done
  rcases reply_of_account done with ⟨illFormed, undecoded, -⟩ | ⟨user, rfl⟩
  · rw [decoded] at undecoded
    cases undecoded
  · exact (by decide : 200 < 400)

theorem succeeds_reissue (decoded : exchange.params = .ok params) : reissue.Succeeds exchange := by
  intro directory reply done
  rcases reply_of_reissue done with
    ⟨illFormed, undecoded, -⟩ | ⟨context, claims, kid, token, -, -, rfl⟩
  · rw [decoded] at undecoded
    cases undecoded
  · exact (by decide : 200 < 400)

end Endpoint

theorem OpenRoute.succeeds (route : OpenRoute) (exchange : Exchange) :
    route.endpoint.Succeeds exchange := by
  cases route with
  | login => exact Endpoint.succeeds_login exchange
  | register => exact Endpoint.succeeds_register exchange

/-- With parameters that are texts all guarded endpoints leave failing to problems. -/
theorem GuardedRoute.succeeds (route : GuardedRoute) {exchange : Exchange}
    {params : List (String × String)} (decoded : exchange.params = .ok params) :
    route.endpoint.Succeeds exchange := by
  cases route with
  | me | authenticate => exact Endpoint.succeeds_claims exchange
  | authorize => exact Endpoint.succeeds_authorize exchange
  | status | statusAuth => exact Endpoint.succeeds_status exchange
  | account => exact Endpoint.succeeds_account decoded
  | reissue => exact Endpoint.succeeds_reissue decoded

theorem GuardedRoute.status_lt (route : GuardedRoute) {exchange : Exchange}
    {directory : Directory} {reply : Reply}
    (done : route.endpoint exchange directory = .ok reply) : reply.response.status < 401 := by
  have succeeds : route.endpoint.Succeeds exchange → reply.response.status < 401 :=
    fun succeeds => (succeeds directory reply done).trans (by decide)
  cases route with
  | me | authenticate => exact succeeds (Endpoint.succeeds_claims exchange)
  | authorize => exact succeeds (Endpoint.succeeds_authorize exchange)
  | status | statusAuth => exact succeeds (Endpoint.succeeds_status exchange)
  | account =>
      rcases Endpoint.reply_of_account done with ⟨illFormed, -, rfl⟩ | ⟨user, rfl⟩
      · exact (by decide : 400 < 401)
      · exact (by decide : 200 < 401)
  | reissue =>
      rcases Endpoint.reply_of_reissue done with
        ⟨illFormed, -, rfl⟩ | ⟨context, claims, kid, token, -, -, rfl⟩
      · exact (by decide : 400 < 401)
      · exact (by decide : 200 < 401)

/-! ## Parameters that are no text -/

def GuardedRoute.params : GuardedRoute → List String
  | .account => ["user_id"]
  | .reissue => ["kid"]
  | _ => []

theorem Destination.names_of_guarded {path : String} {route : GuardedRoute}
    {values : List (String × String)} (leads : ofPath path = .guarded route values) :
    values.map Prod.fst = route.params := by
  unfold ofPath at leads
  cases found : Target.segments? path with
  | none => simp [found] at leads
  | some segments =>
      simp only [found, Option.elim_some] at leads
      unfold ofSegments ofUsers ofDocs at leads
      repeat' split at leads
      all_goals cases leads
      all_goals rfl

theorem Params.failsWith_ofSegments (values : List (String × String)) :
    FailsWith (· ∈ values.map Prod.fst) (Params.ofSegments values) := by
  induction values with
  | nil => exact .ok []
  | cons value values induction =>
      rw [Params.ofSegments, List.mapM_cons]
      apply FailsWith.bind
      · dsimp only
        cases Target.percentDecode? value.2 with
        | some text => exact .ok _
        | none => exact .error (by simp)
      · intro param
        apply FailsWith.bind
        · exact fun other failed => List.mem_cons_of_mem _ (induction other failed)
        · exact fun params => .ok _

/-! ## Guards -/

namespace Stage

variable {service : Service} {arrival : Arrival} {request : Request} {params : Params}

theorem applyRule_owner_illFormed {param illFormed : String} {exchange : Exchange}
    (undecoded : exchange.params = .error illFormed) :
    applyRule (.owner param) exchange ≠ .ok () := by
  intro admitted
  rcases of_bind admitted with ⟨context, -, admitted⟩
  rcases of_bind admitted with ⟨claims, -, admitted⟩
  rcases of_bind admitted with ⟨owner, found, -⟩
  simp [owner?, Rule.ownerParam, undecoded] at found

theorem applyRule_adminOnly {claims : Claims}
    (admitted : applyRule .adminOnly (.verified service arrival request params claims) = .ok ()) :
    claims.hasRole .admin = true := by
  have passed : (if claims.hasRole .admin = true then .ok ()
      else .error ⟨.adminOnly, claims.subject⟩ : Except Denied Unit) = .ok () :=
    of_mapError admitted
  split at passed
  · assumption
  · cases passed

end Stage

/-! ## The full chain -/

structure Request.ReissuesIllFormed (request : Request) (service : Service) (arrival : Arrival) :
    Prop where
  got : request.method = "GET"
  leads : ∃ values param,
    Destination.ofPath (Target.path request.target) = .guarded .reissue values ∧
      Params.ofSegments values = .error param
  admin : ∃ claims, request.caller service.authenticator arrival.now = .ok claims ∧
    claims.hasRole .admin = true

namespace Router

variable {service : Service} {arrival : Arrival} {request : Request} {state : State}

theorem inside_isTranslated (ordinary : ¬ request.ReissuesIllFormed service arrival)
    (whole : request.method ≠ "HEAD") :
    ((Destination.ofPath (Target.path request.target)).inside request.method
      (Exchange.arriving service arrival request (.ofSegments
        (Destination.ofPath (Target.path request.target)).values)).entered
      state).contained.IsTranslated := by
  change ((Visit.mk service arrival request).inside state).contained.IsTranslated
  rcases (Visit.mk service arrival request).inside_cases state with ⟨problem, refused⟩ |
    ⟨route, -, -, handed⟩ | ⟨route, values, claims, leads, supported, known, admitted, handed⟩
  · rw [refused]
    exact problem.isTranslated_response
  · rw [handed]
    exact Endpoint.isTranslated_handler (route.succeeds _) state
  rw [handed]
  cases decoded : Params.ofSegments values with
  | ok params => exact Endpoint.isTranslated_handler (route.succeeds rfl) state
  | error param =>
      have member := Params.failsWith_ofSegments values param decoded
      rw [Destination.names_of_guarded leads] at member
      -- Only two routes have a parameter, and one of them checks it before it admits anybody.
      cases route with
      | account =>
          rw [decoded] at admitted
          exact absurd admitted (Stage.applyRule_owner_illFormed rfl)
      | reissue =>
          have got : request.method = "GET" := by
            simpa [GuardedRoute.verb, Verb.accepts, whole] using supported
          exact absurd ⟨got, ⟨values, param, leads, decoded⟩,
            ⟨claims, known, Stage.applyRule_adminOnly admitted⟩⟩ ordinary
      | _ => cases member

theorem inside_reissue (illFormed : request.ReissuesIllFormed service arrival) :
    ((Destination.ofPath (Target.path request.target)).inside request.method
      (Exchange.arriving service arrival request (.ofSegments
        (Destination.ofPath (Target.path request.target)).values)).entered
      state).contained = .ofText 400 "Invalid URL: Invalid UTF-8 in `kid`" := by
  rcases illFormed with ⟨got, ⟨values, param, leads, undecoded⟩, ⟨claims, known, admin⟩⟩
  have member := Params.failsWith_ofSegments values param undecoded
  rw [Destination.names_of_guarded leads] at member
  cases List.mem_singleton.mp member
  have admitted : GuardedRoute.reissue.rule.check claims none = .ok () := by
    rw [GuardedRoute.rule, Rule.check, if_pos admin]
  have supported : GuardedRoute.reissue.verb.accepts request.method = true := by
    simp [got, GuardedRoute.verb, Verb.accepts]
  have told : Endpoint.reissue
      (.verified service arrival request (.error "kid") claims) state.directory =
      .ok ⟨.ofText 400 "Invalid URL: Invalid UTF-8 in `kid`", [], state.directory⟩ := rfl
  rw [leads]
  simp only [Destination.inside, Destination.values, if_pos supported]
  rw [Stage.guarded_of_ok _ _ _ known, Stage.authorize_of_ok _ _ _ rfl admitted, undecoded]
  change (Endpoint.reissue.handler _ state).contained = _
  simp only [Endpoint.handler, told, Answer.contained]

/-- Every failure in the full chain is the response of a problem, whatever it comes from: it has the
status, the envelope and the one record of the problem. Only what an admin is told of an id that is
no text is no such response. -/
theorem server_failure (service : Service) (arrival : Arrival) (request : Request) (state : State)
    (whole : request.method ≠ "HEAD")
    (full : ∀ probe values, Destination.ofPath (Target.path request.target) ≠ .probe probe values) :
    ∃ response, (server.answer service arrival request state).outcome = .ok response ∧
      (¬ request.ReissuesIllFormed service arrival → 400 ≤ response.status →
        ∃ problem : Problem, response.Dresses problem.response ∧
          response.status = problem.status ∧
          problem.status ∈ [400, 401, 403, 404, 405, 409, 500] ∧
          ("content-type", "application/json") ∈ response.headers ∧
          Envelope.ofJson (Utf8.encode response.body) = .ok problem.envelope ∧
          problem.envelope.error = problem.publicMessage ∧
          (problem.envelope.fields.isSome ↔ response.status = 400) ∧
          response.record = some problem.record) ∧
      (request.ReissuesIllFormed service arrival →
        response.Dresses (.ofText 400 "Invalid URL: Invalid UTF-8 in `kid`")) := by
  rcases (server_wraps service arrival request state whole full).responds with
    ⟨response, outcome, dresses⟩
  refine ⟨response, outcome, ?_, ?_⟩
  · intro ordinary failed
    rw [dresses.status] at failed
    rcases inside_isTranslated ordinary whole failed with ⟨problem, same⟩
    rw [same] at dresses
    have status : response.status = problem.status := dresses.status
    refine ⟨problem, dresses, status, problem.status_mem, dresses.typed _ (by simp
      [Problem.response, Response.ofJson, Response.ofBody]), ?_, rfl, ?_, dresses.record⟩
    · rw [dresses.body]
      exact problem.envelope.ofJson_json
    · rw [status]
      exact problem.isSome_fields_iff
  · intro illFormed
    rw [inside_reissue illFormed] at dresses
    exact dresses

end Router

theorem Visit.exists_problem (visit : Visit) (state : State)
    (failed : 401 ≤ (visit.inside state).contained.status) :
    ∃ problem : Problem, (visit.inside state).contained = problem.response := by
  rcases visit.inside_cases state with
    ⟨problem, refused⟩ | ⟨route, -, -, handed⟩ | ⟨route, values, claims, -, -, -, -, handed⟩
  · rw [refused]
    exact ⟨problem, rfl⟩
  · rw [handed] at failed ⊢
    exact Endpoint.exists_problem_of_handler
      (fun reply done => (route.succeeds _ _ reply done).trans (by decide)) failed
  · rw [handed] at failed ⊢
    exact Endpoint.exists_problem_of_handler (fun _ done => route.status_lt done) failed

/-! ## A crash, and an id that is no text -/

/-- A service whose directory crashes whoever reaches for it. -/
def Service.fragile : Service := { Service.sample with availability := .crashing .other }

theorem Router.server_failure_crash :
    ∃ response, ∃ problem : Problem,
      (server.answer .fragile .sample .sampleRegistration .empty).outcome = .ok response ∧
        response.Dresses problem.response ∧ response.status = 500 := by
  have leads : Destination.ofPath (Target.path Request.sampleRegistration.target) =
      .anyone .register := by
    decide +kernel
  have status : (server.answer .fragile .sample .sampleRegistration .empty).status? =
      some 500 := by
    decide +kernel
  rcases server_failure .fragile .sample .sampleRegistration .empty (by decide)
    (by simp [leads]) with ⟨response, outcome, translated, -⟩
  rw [Answer.status?, outcome] at status
  have failed : response.status = 500 := Option.some.inj status
  have ordinary : ¬ Request.sampleRegistration.ReissuesIllFormed .fragile .sample :=
    fun illFormed => absurd illFormed.got (by decide)
  rcases translated ordinary (by omega) with ⟨problem, dresses, -⟩
  exact ⟨response, problem, outcome, dresses, failed⟩

def Authenticator.adminClaims : Claims := ⟨"s", "i", 0, 1, ⟨true, true⟩, "n"⟩

def Request.sampleIllFormed (token : String) : Request :=
  ⟨"GET", "/auth/token/%FF", [("authorization", Utf8.encode ("Bearer " ++ token))], []⟩

theorem Request.reissuesIllFormed_sample {token : String}
    (issued : Authenticator.sample.issue "k" Authenticator.adminClaims = .ok token) :
    (sampleIllFormed token).ReissuesIllFormed .sample .sample where
  got := rfl
  leads := by
    refine ⟨[("kid", "%FF")], "kid", ?_, by decide +kernel⟩
    change Destination.ofPath (Target.path "/auth/token/%FF") = _
    decide +kernel
  admin := by
    have header : (sampleIllFormed token).header? "authorization" =
        some (Utf8.encode ("Bearer " ++ token)) := header?_eq rfl (by decide +kernel)
    rcases Authenticator.of_issue issued with ⟨entry, key, -, -, encoded⟩
    refine ⟨Authenticator.adminClaims, ?_, rfl⟩
    rw [caller_of_header header (Token.isPrintable_encode encoded)]
    change Authenticator.sample.authenticate _ .epoch = _
    rw [Authenticator.authenticate_of_genuine issued rfl rfl Authenticator.isGenuine_sample]
    exact Claims.verdict_of_acceptable (by constructor <;> decide)

/-- The answer to such a request is the response of no problem. -/
theorem Router.untranslated_sample :
    ∃ token response,
      (server.answer .sample .sample (.sampleIllFormed token) .empty).outcome = .ok response ∧
        response.status = 400 ∧ response.record = none ∧
        ∀ problem : Problem, ¬ response.Dresses problem.response := by
  have possible : ∃ token, Authenticator.sample.issue "k" Authenticator.adminClaims = .ok token :=
    Authenticator.exists_issue rfl rfl (by rw [Rsa.size_mersenneKey]; decide) _
  rcases possible with ⟨token, issued⟩
  have illFormed := Request.reissuesIllFormed_sample issued
  rcases illFormed.leads with ⟨values, param, leads, -⟩
  rcases (server_wraps .sample .sample (.sampleIllFormed token) .empty
    (show "GET" ≠ "HEAD" by decide) (by simp [leads])).responds with ⟨response, outcome, dresses⟩
  rw [inside_reissue illFormed] at dresses
  refine ⟨token, response, outcome, dresses.status, dresses.record, ?_⟩
  intro problem translated
  have recorded := translated.record
  rw [dresses.record] at recorded
  cases recorded

end AuthServer
