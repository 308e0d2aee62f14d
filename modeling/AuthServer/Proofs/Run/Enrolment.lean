import AuthServer.Proofs.Endpoint.Registration
import AuthServer.Proofs.Problem.Envelope
import AuthServer.Proofs.Run.Registration

/-!
Who gets an account, and that nothing else touches the directory. A registration is refused with all
its faults, or because its address is taken, or it makes one account; and a request that changes the
directory in whatever way is a registration that was answered as created.
-/

namespace AuthServer

/-! ## What leaves the directory alone -/

namespace Endpoint

variable {endpoint : Endpoint} {exchange : Exchange} {state : State}

theorem of_changed
    (changed : (endpoint.handler exchange state).state.directory ≠ state.directory) :
    ∃ reply, endpoint exchange state.directory = .ok reply ∧
      (endpoint.handler exchange state).contained = reply.response ∧
      reply.directory ≠ state.directory := by
  cases done : endpoint exchange state.directory with
  | ok reply =>
      rw [handler_of_reply done] at changed ⊢
      exact ⟨reply, rfl, rfl, changed⟩
  | error interruption =>
      rw [handler, done] at changed
      cases interruption <;> exact absurd rfl changed

theorem directory_reissue :
    (reissue.handler exchange state).state.directory = state.directory := by
  by_contra changed
  rcases of_changed changed with ⟨reply, done, -, changed⟩
  exact changed (of_reissue done).1

theorem directory_login : (login.handler exchange state).state.directory = state.directory := by
  by_contra changed
  rcases of_changed changed with ⟨reply, done, -, changed⟩
  exact changed (of_login done).1

end Endpoint

theorem GuardedRoute.directory_handler (route : GuardedRoute) (exchange : Exchange)
    (state : State) :
    (route.endpoint.handler exchange state).state.directory = state.directory := by
  by_cases reissue : route = .reissue
  · subst reissue
    exact Endpoint.directory_reissue
  · exact (GuardedRoute.isQuiet reissue exchange state).unchanged

namespace Visit

variable {visit : Visit} {state : State}

/-- A visit that changes the directory is a registration that was answered as created. -/
theorem of_changed (changed : (visit.answer state).state.directory ≠ state.directory) :
    visit.destination = .anyone .register ∧ visit.request.method = "POST" ∧
      (visit.answer state).status? = some 201 := by
  cases full : visit.isFull with
  | false => exact absurd (isQuiet_of_reduced full).unchanged changed
  | true =>
      rw [status?_of_full state full]
      rw [answer_of_full state full] at changed
      rcases visit.inside_cases state.entered with ⟨problem, refused⟩ |
        ⟨route, leads, posted, handed⟩ | ⟨route, values, claims, -, -, -, -, handed⟩
      · rw [refused] at changed
        exact absurd rfl changed
      · rw [handed] at changed ⊢
        cases route with
        | login => exact absurd Endpoint.directory_login changed
        | register =>
            rcases Endpoint.of_changed changed with ⟨reply, done, contained, -⟩
            rcases Endpoint.of_register done with ⟨_, _, _, -, -, -, -, shown⟩
            refine ⟨leads, posted, ?_⟩
            rw [contained, shown]
            rfl
      · rw [handed] at changed
        exact absurd (route.directory_handler _ state.entered) changed

end Visit

/-! ## Accounts that are there -/

theorem Directory.insert_of_unused {directory : Directory} {id : String}
    (unused : ∀ other account, (other, account) ∈ directory.accounts → other ≠ id)
    (account : Account) :
    (directory.insert id account).accounts = (id, account) :: directory.accounts := by
  have kept : directory.accounts.filter (·.1 != id) = directory.accounts :=
    List.filter_eq_self.mpr fun entry member => bne_iff_ne.mpr (unused _ _ member)
  rw [insert, kept]

theorem Directory.exists_accountOf?_iff {directory : Directory} {email : String} :
    (∃ account, directory.accountOf? email = some account) ↔
      ∃ id account, (id, account) ∈ directory.accounts ∧ account.user.email = email := by
  rw [← Option.isSome_iff_exists, ← Option.ne_none_iff_isSome, Ne, accountOf?_eq_none_iff]
  simp

/-! ## Registrations -/

namespace Request.Registers

variable {service : Service} {request : Request} {asked : RegisterRequest}
variable (registers : request.Registers asked)

include registers

theorem responds_of_faults (faulty : asked.faults ≠ []) (arrival : Arrival) (state : State) :
    (Router.server.answer service arrival request state).Responds 400
      (Problem.validation (asked.faults.map RegisterRequest.Fault.error)).envelope.json := by
  have refused : Endpoint.register (Exchange.arriving service arrival request (.ok [])).entered
      state.directory = _ := Endpoint.register_of_faults rfl registers.read faulty
  exact Router.responds_of_interrupted registers.leads registers.posted refused

variable (faultless : asked.faults = []) (available : service.availability = .available)

include faultless available

theorem responds_of_taken {state : State}
    (taken : ∃ id account, (id, account) ∈ state.directory.accounts ∧
      account.user.email = Email.normalize asked.email) (arrival : Arrival) :
    (Router.server.answer service arrival request state).Responds 409
      (Problem.conflict "email already in use").envelope.json := by
  rcases Directory.exists_accountOf?_iff.mpr taken with ⟨other, found⟩
  have refused : Endpoint.register (Exchange.arriving service arrival request (.ok [])).entered
      state.directory = _ :=
    Endpoint.register_of_taken rfl registers.read faultless available found
  exact Router.responds_of_interrupted registers.leads registers.posted refused

theorem responds_of_free {state : State}
    (free : ∀ id account, (id, account) ∈ state.directory.accounts →
      account.user.email ≠ Email.normalize asked.email) (arrival : Arrival) :
    (Router.server.answer service arrival request state).Responds 201
        (asked.account arrival.freshId arrival.now).user.json ∧
      (Router.server.answer service arrival request state).state.directory =
        state.directory.insert arrival.freshId (asked.account arrival.freshId arrival.now) := by
  have entered : ∃ events, Endpoint.register
      (Exchange.arriving service arrival request (.ok [])).entered state.directory = _ :=
    Endpoint.register_of_free rfl registers.read faultless available
      (Directory.accountOf?_eq_none_iff.mpr free)
  rcases entered with ⟨events, done⟩
  exact Router.responds_of_reply registers.leads registers.posted done

end Request.Registers

theorem Router.directory_of_responds {service : Service} {arrival : Arrival} {request : Request}
    {state : State} {status : Nat} {body : String}
    (responds : (server.answer service arrival request state).Responds status body)
    (other : status ≠ 201) :
    (server.answer service arrival request state).state.directory = state.directory := by
  by_contra changed
  have changes : ((Visit.mk service arrival request).answer state).state.directory ≠
      state.directory := changed
  have created := (Visit.of_changed changes).2.2
  exact other (Option.some.inj (responds.status?.symm.trans created))

/-! ## Main result -/

end AuthServer
