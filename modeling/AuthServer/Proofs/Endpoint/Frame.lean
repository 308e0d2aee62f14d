import AuthServer.Proofs.Endpoint.Effect

/-!
What handlers leave to the stages around them: they count nothing, and they never say that a request
was completed.
-/

namespace AuthServer

def LogEvent.isCompletion (event : LogEvent) : Bool :=
  event.message == "request completed" || event.message == "request failed"

/-- An answer as it comes out of a handler: nothing of it is counted yet, and its completion is not
logged. -/
structure Answer.IsInner (answer : Answer) (state : State) : Prop where
  metrics : answer.state.metrics = state.metrics
  events : ∀ event ∈ answer.events, event.isCompletion = false

def Handler.IsInner (handler : Handler) : Prop :=
  ∀ exchange state, (handler exchange state).IsInner state

namespace Answer

theorem isInner_of_no_events (outcome : Except Crash Response) (state : State) :
    (Answer.mk outcome [] state).IsInner state where
  metrics := rfl
  events _ member := by cases member

end Answer

theorem Handler.isInner_status (status : Nat) : (Handler.status status).IsInner :=
  fun _ state => Answer.isInner_of_no_events _ state

/-! ## Endpoints -/

namespace Endpoint

def IsDiscreet (endpoint : Endpoint) : Prop :=
  ∀ exchange directory reply, endpoint exchange directory = .ok reply →
    ∀ event ∈ reply.events, event.isCompletion = false

theorem isInner_handler {endpoint : Endpoint} (discreet : endpoint.IsDiscreet) :
    endpoint.handler.IsInner := by
  intro exchange state
  unfold handler
  cases done : endpoint exchange state.directory with
  | ok reply => exact ⟨rfl, discreet _ _ _ done⟩
  | error interruption =>
      cases interruption with
      | problem problem => exact Answer.isInner_of_no_events _ state
      | crash crash => exact Answer.isInner_of_no_events _ state

theorem isDiscreet_plain (respond : Exchange → Except Problem Response) :
    (plain respond).IsDiscreet := by
  intro exchange directory reply done
  rcases of_plain done with ⟨response, -, rfl⟩
  simp

theorem isDiscreet_login : login.IsDiscreet := by
  intro exchange directory reply done
  rcases reply_of_login done with ⟨context, request, principal, token, -, -, -, -, rfl⟩
  simp [LogEvent.isCompletion, LogEvent.plain]

theorem isDiscreet_register : register.IsDiscreet := by
  intro exchange directory reply done
  rcases reply_of_register done with ⟨context, request, user, after, -, -, -, -, rfl⟩
  simp [LogEvent.isCompletion, LogEvent.plain]

theorem isDiscreet_account : account.IsDiscreet := by
  intro exchange directory reply done
  rcases reply_of_account done with ⟨illFormed, -, rfl⟩ | ⟨user, rfl⟩ <;> simp

theorem isDiscreet_reissue : reissue.IsDiscreet := by
  intro exchange directory reply done
  rcases reply_of_reissue done with
    ⟨illFormed, -, rfl⟩ | ⟨context, claims, kid, token, -, -, rfl⟩
  · simp
  · simp [LogEvent.isCompletion, LogEvent.plain]

theorem isDiscreet_readiness : readiness.IsDiscreet := by
  intro exchange directory reply done
  rcases of_bind done with ⟨context, -, done⟩
  split at done <;> cases done <;> simp [LogEvent.isCompletion, LogEvent.plain]

end Endpoint

/-! ## Routes -/

theorem OpenRoute.isInner (route : OpenRoute) : route.endpoint.handler.IsInner := by
  cases route with
  | login => exact Endpoint.isInner_handler Endpoint.isDiscreet_login
  | register => exact Endpoint.isInner_handler Endpoint.isDiscreet_register

theorem GuardedRoute.isInner (route : GuardedRoute) : route.endpoint.handler.IsInner := by
  cases route with
  | me | authenticate | authorize => exact Endpoint.isInner_handler (Endpoint.isDiscreet_plain _)
  | status | statusAuth =>
      change Endpoint.status.handler.IsInner
      exact Endpoint.isInner_handler (Endpoint.isDiscreet_plain _)
  | account => exact Endpoint.isInner_handler Endpoint.isDiscreet_account
  | reissue => exact Endpoint.isInner_handler Endpoint.isDiscreet_reissue

theorem ProbeRoute.isInner (route : ProbeRoute) : route.handler.IsInner := by
  cases route with
  | liveness => exact Handler.isInner_status 200
  | readiness => exact Endpoint.isInner_handler Endpoint.isDiscreet_readiness
  | metrics | redirect | description => exact fun _ state => Answer.isInner_of_no_events _ state
  | index | page =>
      intro exchange state
      change (Endpoint.documentation exchange state).IsInner state
      unfold Endpoint.documentation
      split
      · exact Answer.isInner_of_no_events _ state
      · split <;> exact Answer.isInner_of_no_events _ state

end AuthServer
