import AuthServer.Proofs.Run.Confidentiality

/-!
How every lookup of an account ends. A caller who is known is told whether the account is there, or
that it is not the caller's to ask for; but a path that stands for no text is held to be the
server's own failure.
-/

namespace AuthServer

namespace Stage

variable (service : Service) (arrival : Arrival) (request : Request) (segment : String)
variable (claims : Claims)

theorem applyRule_eq_internal_iff {detail : String} :
    applyRule (.owner "user_id") (.about service arrival request segment claims) =
        .error (.internal detail) ↔
      Target.percentDecode? segment = none ∧ detail = Exchange.illFormedParam "user_id" := by
  rw [applyRule_about]
  cases Target.percentDecode? segment with
  | none => simp [eq_comm]
  | some id => cases owns : claims.ownsOrAdmin id <;> simp [Rule.check, owns, Problem.ofDenied]

end Stage

theorem Endpoint.status_account {service : Service} {segment id : String}
    (available : service.availability = .available)
    (names : Target.percentDecode? segment = some id) (arrival : Arrival) (request : Request)
    (claims : Claims) (state : State) :
    (account.handler (.about service arrival request segment claims) state).contained.status =
      if (state.directory.account? id).isSome then 200 else 404 := by
  have done := account_about service arrival request claims state.directory names
  rw [available, Availability.call, Directory.find] at done
  cases found : state.directory.account? id with
  | some user =>
      rw [found] at done
      rw [handler, done]
      rfl
  | none =>
      rw [found] at done
      rw [handler, done]
      rfl

/-- With the directory within reach, a caller who is known and asks for an account is answered by
one of four statuses, which the text that the path stands for decides. The guard takes a path for a
failure of the server if it stands for no text, and only then. -/
theorem Router.account_status {service : Service} {arrival : Arrival} {request : Request}
    {values : List (String × String)} {claims : Claims}
    (leads : Destination.ofPath (Target.path request.target) = .guarded .account values)
    (got : request.method = "GET")
    (known : request.caller service.authenticator arrival.now = .ok claims)
    (available : service.availability = .available) (state : State) :
    ∃ segment, values = [("user_id", segment)] ∧
      (server.answer service arrival request state).status? = some
        (match Target.percentDecode? segment with
        | some id =>
            if claims.ownsOrAdmin id then
              if (state.directory.account? id).isSome then 200 else 404
            else 403
        | none => 500) ∧
      ∀ detail,
        Stage.applyRule (.owner "user_id") (.about service arrival request segment claims) =
            .error (.internal detail) ↔
          Target.percentDecode? segment = none ∧
            detail = Exchange.illFormedParam "user_id" := by
  rcases Destination.values_of_account leads with ⟨segment, rfl⟩
  have looksUp : (Visit.mk service arrival request).LooksUp segment claims := ⟨leads, got, known⟩
  refine ⟨segment, rfl, ?_, fun detail => Stage.applyRule_eq_internal_iff ..⟩
  change ((Visit.mk service arrival request).answer state).status? = _
  rw [Visit.status?_of_full state looksUp.isFull]
  cases names : Target.percentDecode? segment with
  | none =>
      rw [looksUp.inside_of_illFormed names]
      rfl
  | some id =>
      dsimp only
      split
      · rename_i owns
        rw [looksUp.inside_of_admitted names owns, Endpoint.status_account available names]
        rfl
      · rename_i foreign
        rw [looksUp.inside_of_denied names (by simpa using foreign)]
        rfl

/-! ## Two paths -/

def Request.sampleLookup (token segment : String) : Request :=
  { Request.sample token with target := "/users/" ++ segment }

theorem Visit.looksUp_sample {token : String}
    (issued : Authenticator.sample.issue "k" Authenticator.sampleClaims = .ok token)
    {segment : String} (leads : Destination.ofPath (Target.path ("/users/" ++ segment)) =
      .guarded .account [("user_id", segment)]) :
    (Visit.mk .sample .sample (.sampleLookup token segment)).LooksUp segment
      Authenticator.sampleClaims where
  leads := leads
  got := rfl
  known := Request.caller_sample issued

theorem Router.account_status_sample :
    ∃ token, Authenticator.sample.issue "k" Authenticator.sampleClaims = .ok token ∧
      (server.answer .sample .sample (.sampleLookup token "%73") .empty).status? = some 404 := by
  rcases Authenticator.exists_issue_sample with ⟨token, issued⟩
  have leads : Destination.ofPath (Target.path ("/users/" ++ "%73")) =
      .guarded .account [("user_id", "%73")] := by
    decide +kernel
  have looksUp := Visit.looksUp_sample issued leads
  rcases account_status looksUp.leads looksUp.got looksUp.known rfl .empty with
    ⟨segment, same, status, -⟩
  cases same
  exact ⟨token, issued, status.trans (by decide +kernel)⟩

theorem Router.account_fails_sample :
    ∃ token, Authenticator.sample.issue "k" Authenticator.sampleClaims = .ok token ∧
      Destination.ofPath (Target.path (Request.sampleLookup token "%FF").target) =
        .guarded .account [("user_id", "%FF")] ∧
      (Request.sampleLookup token "%FF").caller Service.sample.authenticator
        Arrival.sample.now = .ok Authenticator.sampleClaims ∧
      (server.answer .sample .sample (.sampleLookup token "%FF") .empty).status? = some 500 := by
  rcases Authenticator.exists_issue_sample with ⟨token, issued⟩
  have leads : Destination.ofPath (Target.path ("/users/" ++ "%FF")) =
      .guarded .account [("user_id", "%FF")] := by
    decide +kernel
  have looksUp := Visit.looksUp_sample issued leads
  refine ⟨token, issued, looksUp.leads, looksUp.known, ?_⟩
  change ((Visit.mk .sample .sample (.sampleLookup token "%FF")).answer .empty).status? = _
  rw [Visit.status?_of_full _ looksUp.isFull, looksUp.inside_of_illFormed (by decide +kernel)]
  rfl

end AuthServer
