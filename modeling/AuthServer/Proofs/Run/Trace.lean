import AuthServer.Proofs.Routes.Effect

/-!
Runs of the server: requests one after another, each at its own instant. What is true of the
accounts after every run follows from what a single request can do to them.
-/

namespace AuthServer

structure Event where
  arrival : Arrival
  request : Request
  before : State
  answer : Answer

def Service.meet (service : Service) (arrival : Arrival) (request : Request) (state : State) :
    Event :=
  ⟨arrival, request, state, Router.server.answer service arrival request state⟩

/-- The histories of a server and the states they lead to. The latest event of a history comes
first. -/
inductive Run (service : Service) (start : State) : List Event → State → Prop where
  | start : Run service start [] start
  | answer {history : List Event} {state : State} (run : Run service start history state)
      (arrival : Arrival) (request : Request) :
      Run service start (service.meet arrival request state :: history)
        (service.meet arrival request state).answer.state

def freshIds (history : List Event) : List String :=
  history.map (·.arrival.freshId)

namespace Run

variable {service : Service} {start : State} {history : List Event} {state : State}

/-- A run is one of its beginnings and a run from where that led. -/
theorem of_append {later : List Event} (run : Run service start (later ++ history) state) :
    ∃ reached, Run service start history reached ∧ Run service reached later state := by
  induction later generalizing state with
  | nil => exact ⟨state, run, .start⟩
  | cons event later induction =>
      cases run with
      | answer run arrival request =>
          rcases induction run with ⟨reached, before, after⟩
          exact ⟨reached, before, .answer after arrival request⟩

theorem of_mem (run : Run service start history state) {event : Event} (member : event ∈ history) :
    (∃ past, Run service start past event.before) ∧
      event = service.meet event.arrival event.request event.before := by
  induction run with
  | start => cases member
  | @answer history state run arrival request induction =>
      rcases List.mem_cons.mp member with same | member
      · subst same
        exact ⟨⟨_, run⟩, rfl⟩
      · exact induction member

theorem isConsistent (run : Run service start history state)
    (consistent : start.directory.IsConsistent) : state.directory.IsConsistent := by
  induction run with
  | start => exact consistent
  | @answer history state run arrival request induction =>
      exact (Router.server_effect service arrival request _).isConsistent induction

theorem reachable (run : Run service start history state)
    (reachable : start.directory.Reachable) : state.directory.Reachable := by
  induction run with
  | start => exact reachable
  | @answer history state run arrival request induction =>
      exact (Router.server_effect service arrival request _).reachable induction

/-- An account stays as it is as long as its id is not drawn again. -/
theorem mem_of_start (run : Run service start history state) {id : String} {account : Account}
    (known : (id, account) ∈ start.directory.accounts) (unused : id ∉ freshIds history) :
    (id, account) ∈ state.directory.accounts := by
  induction run with
  | start => exact known
  | @answer history state run arrival request induction =>
      rcases not_or.mp (List.mem_cons.not.mp unused) with ⟨other, unused⟩
      exact (Router.server_effect service arrival request _).mem (induction unused) other

theorem mem_of_entered {past later : List Event} {event : Event} {account : Account}
    (run : Run service start (later ++ event :: past) state)
    (entered : (event.arrival.freshId, account) ∈ event.answer.state.directory.accounts)
    (unused : event.arrival.freshId ∉ freshIds later) :
    (event.arrival.freshId, account) ∈ state.directory.accounts := by
  rcases run.of_append with ⟨reached, earlier, after⟩
  cases earlier with
  | answer earlier arrival request => exact after.mem_of_start entered unused

theorem of_mem_accounts (run : Run service start history state) {id : String} {account : Account}
    (member : (id, account) ∈ state.directory.accounts) :
    (id, account) ∈ start.directory.accounts ∨
      id ∈ freshIds history ∧ account.user.roles = .ofList [.user] := by
  induction run with
  | start => exact .inl member
  | @answer history state run arrival request induction =>
      rcases (Router.server_effect service arrival request _).of_mem member with
        member | ⟨rfl, plain⟩
      · rcases induction member with atStart | ⟨fresh, plain⟩
        · exact .inl atStart
        · exact .inr ⟨List.mem_cons_of_mem _ fresh, plain⟩
      · exact .inr ⟨List.mem_cons_self, plain⟩

theorem of_admin (run : Run service start history state) {id : String} {account : Account}
    (member : (id, account) ∈ state.directory.accounts)
    (admin : account.user.roles.contains .admin = true) :
    (id, account) ∈ start.directory.accounts := by
  rcases run.of_mem_accounts member with atStart | ⟨-, plain⟩
  · exact atStart
  · rw [plain] at admin
    cases admin

theorem mem_accounts (run : Run service start history state) {first : String}
    (planted : ∀ id account, (id, account) ∈ start.directory.accounts → id = first)
    (distinct : (freshIds history ++ [first]).Nodup) {event : Event} (member : event ∈ history)
    {id : String} {account : Account} (known : (id, account) ∈ event.before.directory.accounts) :
    (id, account) ∈ state.directory.accounts := by
  induction run with
  | start => cases member
  | @answer history state run arrival request induction =>
      rcases List.nodup_cons.mp distinct with ⟨unused, distinct⟩
      have kept : (id, account) ∈ state.directory.accounts := by
        rcases List.mem_cons.mp member with same | member
        · subst same
          exact known
        · exact induction distinct member
      refine (Router.server_effect service arrival request _).mem kept ?_
      rintro rfl
      apply unused
      change arrival.freshId ∈ freshIds history ++ [first]
      rcases run.of_mem_accounts kept with atStart | ⟨fresh, -⟩
      · rw [planted _ _ atStart]
        simp
      · exact List.mem_append_left _ fresh

end Run

end AuthServer
