import AuthServer.Proofs.Run.Likeness
import AuthServer.Proofs.Run.Registration

/-!
Accounts are nobody's business but their owners' and the admins'. Whoever else asks for an account
gets the same answer whether it exists or not and whatever is in it, since the guard and the
endpoint take the id from the path in the same way and the guard comes first.
-/

namespace AuthServer

structure Visit.LooksUp (visit : Visit) (segment : String) (claims : Claims) : Prop where
  leads : visit.destination = .guarded .account [("user_id", segment)]
  got : visit.request.method = "GET"
  known : visit.request.caller visit.service.authenticator visit.arrival.now = .ok claims

/-! ## The id in the path -/

section Path

variable {service : Service} {arrival : Arrival} {request : Request} {segment : String}
variable {id : String}

def Exchange.about (service : Service) (arrival : Arrival) (request : Request) (segment : String)
    (claims : Claims) : Exchange :=
  .verified service arrival request (.ofSegments [("user_id", segment)]) claims

variable (service arrival request) in
/-- The guard compares with what the segment stands for. -/
theorem Stage.applyRule_about (segment : String) (claims : Claims) :
    applyRule (.owner "user_id") (.about service arrival request segment claims) =
      match Target.percentDecode? segment with
      | some id => ((Rule.owner "user_id").check claims (some id)).mapError .ofDenied
      | none => .error (.internal (Exchange.illFormedParam "user_id")) := by
  change (do
    let owner ← owner? (.owner "user_id") (.ofSegments [("user_id", segment)])
    ((Rule.owner "user_id").check claims owner).mapError .ofDenied) = _
  rw [Params.ofSegments_single]
  cases Target.percentDecode? segment <;> rfl

variable (service arrival request) in
/-- The endpoint looks up what the segment stands for. -/
theorem Endpoint.account_about (claims : Claims) (directory : Directory)
    (names : Target.percentDecode? segment = some id) :
    account (.about service arrival request segment claims) directory =
      (service.availability.call (directory.find id)).map fun user =>
        ⟨.ofJson 200 user.json, [], directory⟩ := by
  have decoded : (Exchange.about service arrival request segment claims).params =
      .ok [("user_id", id)] := by
    change Params.ofSegments [("user_id", segment)] = _
    rw [Params.ofSegments_single, names]
    rfl
  rw [account, withParam, decoded]
  change service.availability.call (directory.find id) >>= _ = _
  cases service.availability.call (directory.find id) <;> rfl

end Path

namespace Visit.LooksUp

variable {visit : Visit} {segment : String} {claims : Claims}

theorem isFull (looksUp : visit.LooksUp segment claims) : visit.isFull = true := by
  rw [Visit.isFull, looksUp.leads]
  rfl

theorem inside_eq (looksUp : visit.LooksUp segment claims) (state : State) :
    visit.inside state = Stage.authorize (.owner "user_id") Endpoint.account.handler
      (.about visit.service visit.arrival visit.request segment claims) state := by
  have supported : GuardedRoute.account.verb.accepts visit.request.method = true := by
    simp [looksUp.got, GuardedRoute.verb, Verb.accepts]
  rw [inside, exchange, looksUp.leads]
  simp only [Destination.inside, if_pos supported, Destination.values]
  exact Stage.guarded_of_ok _ _ _ looksUp.known

/-- Whom the guard refuses is answered without a look at the directory. -/
theorem inside_of_refused (looksUp : visit.LooksUp segment claims) {problem : Problem}
    (refused : Stage.applyRule (.owner "user_id")
      (.about visit.service visit.arrival visit.request segment claims) = .error problem)
    (state : State) : visit.inside state = .respond problem.response state := by
  rw [looksUp.inside_eq, Stage.authorize, refused]

theorem inside_of_denied (looksUp : visit.LooksUp segment claims) {id : String}
    (names : Target.percentDecode? segment = some id) (denied : claims.ownsOrAdmin id = false)
    (state : State) :
    visit.inside state =
      .respond (Problem.ofDenied ⟨.owner "user_id", claims.subject⟩).response state := by
  apply looksUp.inside_of_refused
  rw [Stage.applyRule_about, names]
  simp only [Rule.check, denied, Bool.false_eq_true, if_false, mapError_error]

theorem inside_of_stranger (looksUp : visit.LooksUp segment claims)
    (plain : claims.isAdmin = false) {id : String}
    (names : Target.percentDecode? segment = some id) (foreign : id ≠ claims.subject)
    (state : State) :
    visit.inside state =
      .respond (Problem.ofDenied ⟨.owner "user_id", claims.subject⟩).response state :=
  looksUp.inside_of_denied names (by simp [Claims.ownsOrAdmin, plain, foreign.symm]) state

theorem inside_of_admitted (looksUp : visit.LooksUp segment claims) {id : String}
    (names : Target.percentDecode? segment = some id) (admitted : claims.ownsOrAdmin id = true)
    (state : State) :
    visit.inside state = Endpoint.account.handler
      (.about visit.service visit.arrival visit.request segment claims) state := by
  have passed : Stage.applyRule (.owner "user_id")
      (.about visit.service visit.arrival visit.request segment claims) = .ok () := by
    rw [Stage.applyRule_about, names]
    simp only [Rule.check, admitted, if_true, mapError_ok]
  rw [looksUp.inside_eq, Stage.authorize, passed]

theorem inside_of_illFormed (looksUp : visit.LooksUp segment claims)
    (illFormed : Target.percentDecode? segment = none) (state : State) :
    visit.inside state =
      .respond (Problem.internal (Exchange.illFormedParam "user_id")).response state := by
  apply looksUp.inside_of_refused
  rw [Stage.applyRule_about, illFormed]

theorem names_subject (looksUp : visit.LooksUp segment claims) (plain : claims.isAdmin = false)
    {state : State} {body : String} (shown : (visit.answer state).Responds 200 body) :
    Target.percentDecode? segment = some claims.subject := by
  rcases shown with ⟨response, outcome, succeeded, -⟩
  rw [answer_of_full state looksUp.isFull] at outcome
  cases outcome
  rw [status_deliver] at succeeded
  cases names : Target.percentDecode? segment with
  | none =>
      rw [looksUp.inside_of_illFormed names] at succeeded
      cases succeeded
  | some id =>
      by_cases own : id = claims.subject
      · rw [own]
      · rw [looksUp.inside_of_stranger plain names own] at succeeded
        cases succeeded

theorem of_shown (looksUp : visit.LooksUp segment claims) (plain : claims.isAdmin = false)
    {state : State} {body : String} (shown : (visit.answer state).Responds 200 body) :
    ∃ user : User, state.directory.find claims.subject = .ok user ∧ body = user.json := by
  have names := looksUp.names_subject plain shown
  have owns : claims.ownsOrAdmin claims.subject = true := by simp [Claims.ownsOrAdmin]
  rcases shown with ⟨response, outcome, succeeded, rfl⟩
  rw [answer_of_full state looksUp.isFull, looksUp.inside_of_admitted names owns] at outcome
  cases outcome
  rw [status_deliver] at succeeded
  rcases Endpoint.of_handler (succeeded.trans_lt (by decide)) with ⟨reply, done, contained, -⟩
  rw [Endpoint.account_about _ _ _ _ _ names] at done
  rcases of_map done with ⟨user, found, rfl⟩
  refine ⟨user, Endpoint.of_call found, ?_⟩
  rw [body_deliver, looksUp.got, if_neg (by decide), contained]
  rfl

end Visit.LooksUp

/-! ## Main result -/

/-- Nobody but its owner and the admins learns anything of an account. A caller who is no admin and
asks for somebody else's gets one and the same response in all states of the server, with the
directory within reach or not; if it is shown an account after any run from a directory of
registrations, the account is its own. Every path names the same account to the guard and to the
endpoint, or is refused by the guard. -/
theorem Service.keeps_confidential {service : Service} {arrival : Arrival} {request : Request}
    {values : List (String × String)} {claims : Claims}
    (leads : Destination.ofPath (Target.path request.target) = .guarded .account values)
    (got : request.method = "GET")
    (known : request.caller service.authenticator arrival.now = .ok claims)
    (plain : claims.isAdmin = false) :
    ∃ segment, values = [("user_id", segment)] ∧
      (∀ id, Target.percentDecode? segment = some id → id ≠ claims.subject →
        ∃ response : Response, response.status = 403 ∧
          response.body =
            (Problem.ofDenied ⟨.owner "user_id", claims.subject⟩).envelope.json ∧
          ∀ availability state,
            (Router.server.answer { service with availability } arrival request state).outcome =
              .ok response) ∧
      (∀ start history state body, start.directory.Reachable →
        Run service start history state →
        (Router.server.answer service arrival request state).Responds 200 body →
        ∃ user : User, body = user.json ∧ User.ofJson (Utf8.encode body) = .ok user ∧
          user.id = claims.subject ∧ state.directory.find claims.subject = .ok user) ∧
      ∀ others directory,
        match Target.percentDecode? segment with
        | some id =>
            Stage.applyRule (.owner "user_id")
                (.about service arrival request segment others) =
              ((Rule.owner "user_id").check others (some id)).mapError .ofDenied ∧
            Endpoint.account (.about service arrival request segment others) directory =
              (service.availability.call (directory.find id)).map fun user =>
                ⟨.ofJson 200 user.json, [], directory⟩
        | none =>
            Stage.applyRule (.owner "user_id")
                (.about service arrival request segment others) =
              .error (.internal (Exchange.illFormedParam "user_id")) := by
  rcases Destination.values_of_account leads with ⟨segment, rfl⟩
  refine ⟨segment, rfl, ?_, ?_, ?_⟩
  · intro id names foreign
    let problem := Problem.ofDenied ⟨.owner "user_id", claims.subject⟩
    refine ⟨(Visit.mk service arrival request).deliver problem.response, ?_, ?_, ?_⟩
    · exact Visit.status_deliver _ _
    · rw [Visit.body_deliver, got, if_neg (by decide)]
      rfl
    · intro availability state
      have looksUp : (Visit.mk { service with availability } arrival request).LooksUp segment
          claims := ⟨leads, got, known⟩
      change (Visit.answer ⟨{ service with availability }, arrival, request⟩ state).outcome = _
      rw [Visit.answer_of_full state looksUp.isFull,
        looksUp.inside_of_stranger plain names foreign]
      rfl
  · intro start history state body reachable run shown
    have looksUp : (Visit.mk service arrival request).LooksUp segment claims := ⟨leads, got, known⟩
    rcases looksUp.of_shown plain shown with ⟨user, found, rfl⟩
    have sound := (run.reachable reachable).isConsistent.toIsSound
    exact ⟨user, rfl, user.ofJson_json, sound.id_of_find found, found⟩
  · intro others directory
    have guard := Stage.applyRule_about service arrival request segment others
    cases names : Target.percentDecode? segment with
    | none =>
        rw [names] at guard
        exact guard
    | some id =>
        rw [names] at guard
        exact ⟨guard, Endpoint.account_about service arrival request others directory names⟩

theorem Service.keeps_confidential_sample :
    ∃ token response, Authenticator.sample.issue "k" Authenticator.sampleClaims = .ok token ∧
      response.status = 403 ∧
      ∀ state ∈ [State.empty, .peopled],
        (Router.server.answer .sample .sample
          { Request.sample token with target := "/users/u" } state).outcome = .ok response := by
  rcases Authenticator.exists_issue_sample with ⟨token, issued⟩
  let request : Request := { Request.sample token with target := "/users/u" }
  have leads : Destination.ofPath (Target.path request.target) =
      .guarded .account [("user_id", "u")] := by
    change Destination.ofPath (Target.path "/users/u") = _
    decide +kernel
  have known : request.caller Service.sample.authenticator Arrival.sample.now =
      .ok Authenticator.sampleClaims := Request.caller_sample issued
  rcases keeps_confidential leads rfl known rfl with ⟨segment, same, hidden, -⟩
  cases same
  rcases hidden "u" (by decide +kernel) (by decide) with ⟨response, status, -, answered⟩
  exact ⟨token, response, issued, status, fun state _ => answered .available state⟩

end AuthServer
