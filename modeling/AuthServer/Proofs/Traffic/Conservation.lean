import AuthServer.Proofs.Routes.Failure
import AuthServer.Proofs.Run.Registration
import AuthServer.Proofs.Traffic.Phases
import Mathlib.Algebra.BigOperators.Ring.Finset

/-!
The counters at every moment of visits that overlap. Each of them goes up and down with the number
of visits in phases of one kind: no step changes a counter without taking a visit in or out of these
phases. So the counters tell how many visits are in them, whatever the visits come to and in
whatever order their steps are made.
-/

namespace AuthServer

def HasLine (text line : String) : Prop :=
  ∃ before after, text = before ++ "\n" ++ line ++ "\n" ++ after

theorem Metrics.hasLine_exposition {metrics : Metrics} {series : Series}
    (member : series ∈ metrics.series) :
    HasLine metrics.exposition s!"{series.name} {series.value}" := by
  rcases List.append_of_mem member with ⟨front, back, split⟩
  refine ⟨String.join (front.map fun series => "\n".intercalate series.lines ++ "\n\n") ++
      s!"# HELP {series.name} {series.help}" ++ "\n" ++ s!"# TYPE {series.name} {series.kind}",
    "\n" ++ String.join (back.map fun series => "\n".intercalate series.lines ++ "\n\n"), ?_⟩
  have blank : "\n\n" = "\n" ++ "\n" := rfl
  rw [exposition, split, List.map_append, List.map_cons, String.join_append, String.join_cons]
  simp only [Series.lines, String.intercalate_cons_cons, String.intercalate_singleton, blank,
    String.append_assoc]

namespace Traffic

variable {Caller : Type} [DecidableEq Caller] {visits : Caller → Visit} {start : State}
  {system : System Caller}

/-! ## What one step keeps -/

/-- A counter goes up and down with the visits in some phases. -/
def Tracks (value : Metrics → Int) (counts : Phase → Bool) : Prop :=
  ∀ ⦃visit state phase next after⦄, Move visit state phase next after →
    value after.metrics + (counts phase).toNat = value state.metrics + (counts next).toNat

theorem tracks_requests : Tracks (·.requests) Phase.hasEntered := by
  intro visit state phase next after move
  cases move with
  | count full => simp [State.count, Metrics.countRequest, Phase.hasEntered]
  | respond | crash => simp [Visit.metrics_inside, Phase.hasEntered]
  | probe reduced outcome => simp [Visit.metrics_of_reduced _ reduced, Phase.hasEntered]
  | _ => rfl

theorem tracks_inFlight : Tracks Metrics.inFlight Phase.isInside := by
  intro visit state phase next after move
  cases move with
  | occupy => simp [State.count, Metrics.occupy, Phase.isInside]
  | leave | leaveTallied | unwind | abandon | discard =>
      simp [State.count, Metrics.leave, Phase.isInside]
  | respond | crash => simp [Visit.metrics_inside, Phase.isInside]
  | probe reduced outcome => simp [Visit.metrics_of_reduced _ reduced, Phase.isInside]
  | _ => rfl

theorem tracks_errors : Tracks (·.errors) Phase.hasErred := by
  intro visit state phase next after move
  cases move with
  | tally problem => simp [State.count, Metrics.countError, Phase.hasErred]
  | leave plain => simp [State.count, Metrics.leave, Phase.hasErred, plain]
  | leaveTallied problem => simp [State.count, Metrics.leave, Phase.hasErred, problem]
  | respond | crash => simp [Visit.metrics_inside, Phase.hasErred]
  | probe reduced outcome => simp [Visit.metrics_of_reduced _ reduced, Phase.hasErred]
  | _ => rfl

theorem tracks_crashes : Tracks (·.crashes) Phase.isContained := by
  intro visit state phase next after move
  cases move with
  | contain => simp [State.count, Metrics.countCrash, Phase.isContained]
  | respond | crash => simp [Visit.metrics_inside, Phase.isContained]
  | probe reduced outcome => simp [Visit.metrics_of_reduced _ reduced, Phase.isContained]
  | _ => rfl

theorem Move.isFull {visit : Visit} {state after : State} {phase next : Phase}
    (move : Move visit state phase next after)
    (full : phase.hasEntered = true → visit.isFull = true) :
    next.hasEntered = true → visit.isFull = true := by
  cases move with
  | count isFull => exact fun _ => isFull
  | miss | probe => exact fun entered => nomatch entered
  | _ => exact fun _ => full rfl

/-- A visit to the reduced chain, which is never counted, counts nothing either. -/
theorem Move.metrics_of_reduced {visit : Visit} {state after : State} {phase next : Phase}
    (move : Move visit state phase next after) (reduced : visit.isFull = false)
    (outside : phase.hasEntered = false) : after.metrics = state.metrics := by
  cases move with
  | count full => rw [full] at reduced; cases reduced
  | miss => rfl
  | probe => exact Visit.metrics_of_reduced state reduced
  | _ => cases outside

/-! ## Counting phases -/

theorem System.count_eq_sum {Caller : Type} [Fintype Caller] (system : System Caller)
    (counts : Phase → Bool) :
    system.count counts = ∑ caller, (counts (system.phases caller)).toNat := by
  rw [count, Finset.card_filter]
  exact Finset.sum_congr rfl fun caller _ => by cases counts (system.phases caller) <;> rfl

theorem System.count_hasCrashed {Caller : Type} [Fintype Caller] (system : System Caller) :
    system.count Phase.isContained + system.count Phase.isUnwinding =
      system.count Phase.hasCrashed := by
  have split : ∀ phase : Phase,
      phase.isContained.toNat + phase.isUnwinding.toNat = phase.hasCrashed.toNat := by
    intro phase
    cases phase <;> rfl
  rw [count_eq_sum, count_eq_sum, count_eq_sum, ← Finset.sum_add_distrib]
  exact Finset.sum_congr rfl fun caller _ => split _

theorem Phase.isInside_eq_isWithin (phase : Phase) (settled : phase.isBetween = false) :
    phase.isInside = phase.isWithin := by
  cases phase <;> first | rfl | cases settled

theorem Phase.isContained_eq_hasCrashed (phase : Phase) (settled : phase.isBetween = false) :
    phase.isContained = phase.hasCrashed := by
  cases phase <;> first | rfl | cases settled

theorem System.count_congr {Caller : Type} [Fintype Caller] {system : System Caller}
    (settled : ∀ caller, (system.phases caller).isBetween = false) {counts other : Phase → Bool}
    (same : ∀ phase, phase.isBetween = false → counts phase = other phase) :
    system.count counts = system.count other := by
  rw [count_eq_sum, count_eq_sum]
  exact Finset.sum_congr rfl fun caller _ => by rw [same _ (settled caller)]

section Count

variable [Fintype Caller]

theorem System.count_advance (system : System Caller) (counts : Phase → Bool) (caller : Caller)
    (phase : Phase) (state : State) :
    (system.advance caller phase state).count counts +
        (counts (system.phases caller)).toNat =
      system.count counts + (counts phase).toNat := by
  have weights : (fun other => (counts ((system.advance caller phase state).phases other)).toNat) =
      Function.update (fun other => (counts (system.phases other)).toNat) caller
        (counts phase).toNat := by
    funext other
    by_cases same : other = caller
    · subst same
      simp [advance]
    · simp [advance, same]
  rw [count_eq_sum, count_eq_sum, weights, Finset.sum_update_of_mem (Finset.mem_univ caller),
    ← Finset.add_sum_erase _ _ (Finset.mem_univ caller), Finset.sdiff_singleton_eq_erase]
  omega

theorem Run.value_eq {value : Metrics → Int} {counts : Phase → Bool} (tracks : Tracks value counts)
    (zero : value start.metrics = 0) (outside : counts .arrived = false)
    (run : Run visits start system) : value system.state.metrics = system.count counts := by
  induction run with
  | start => simp [System.count, zero, outside]
  | @step system run caller phase state move induction =>
      -- What the step does to the counter it does to the number of visits in the phases.
      have moved := tracks move
      have counted := system.count_advance counts caller phase state
      change value state.metrics = _
      omega

end Count

theorem Run.isFull (run : Run visits start system) (caller : Caller)
    (entered : (system.phases caller).hasEntered = true) : (visits caller).isFull = true := by
  induction run with
  | start => cases entered
  | @step system run moved phase state move induction =>
      by_cases same : caller = moved
      · subst same
        apply move.isFull induction
        simpa [System.advance] using entered
      · apply induction
        simpa [System.advance, same] using entered

/-! ## Visits that meet no others -/

theorem Run.step_alone {visit : Visit} {state after : State} {phase next : Phase}
    (run : Run (fun _ : Unit => visit) start ⟨state, fun _ => phase⟩)
    (move : Move visit state phase next after) :
    Run (fun _ : Unit => visit) start ⟨after, fun _ => next⟩ := by
  have advanced := run.step () move
  rwa [System.advance, Function.update_eq_const_of_subsingleton] at advanced

theorem Run.exists_alone (visit : Visit) (state : State) :
    ∃ (system : System Unit) (response : Response), Run (fun _ => visit) state system ∧
      system.state = (visit.answer state).state ∧
      (visit.answer state).outcome = .ok response ∧
      (system.phases ()).response? visit = some response := by
  have arrived : Run (fun _ : Unit => visit) state ⟨state, fun _ => .arrived⟩ := .start
  cases full : visit.isFull with
  | false =>
      rcases Visit.of_reduced state full with ⟨response, outcome, -, -⟩
      exact ⟨_, _, arrived.step_alone (.probe full outcome), rfl, outcome, rfl⟩
  | true =>
      have working : Run (fun _ : Unit => visit) state ⟨state.entered, fun _ => .working⟩ :=
        (arrived.step_alone (.count full)).step_alone .occupy
      rw [Visit.answer_of_full state full, Answer.counted, Answer.contained]
      cases outcome : (visit.inside state.entered).outcome with
      | ok response =>
          have handled := working.step_alone (.respond outcome)
          dsimp only
          cases problem : response.record.isSome with
          | false => exact ⟨_, _, handled.step_alone (.leave problem), rfl, rfl, rfl⟩
          | true =>
              have tallied := handled.step_alone (.tally problem)
              exact ⟨_, _, tallied.step_alone (.leaveTallied problem), rfl, rfl, rfl⟩
      | error crash =>
          have crashed := working.step_alone (.crash outcome)
          exact ⟨_, _, (crashed.step_alone .unwind).step_alone .contain, rfl, rfl, rfl⟩

/-! ## Main result -/

/-- What the counters say at some moment of visits that overlap. -/
structure Conserves [Fintype Caller] (visits : Caller → Visit) (system : System Caller) :
    Prop where
  requests : system.state.metrics.requests = system.count Phase.hasEntered
  inFlight : system.state.metrics.inFlight = system.count Phase.isInside
  crashes : system.state.metrics.crashes = system.count Phase.isContained
  unwinding : system.state.metrics.crashes + system.count Phase.isUnwinding =
    system.count Phase.hasCrashed
  errors : system.state.metrics.errors = system.count Phase.hasErred
  /-- When no visit stands between two counters, they tell exactly how many visits have entered, how
  many have not left, and how many have crashed. -/
  settled : (∀ caller, (system.phases caller).isBetween = false) →
    system.state.metrics.requests = system.count Phase.hasEntered ∧
    system.state.metrics.inFlight = system.count Phase.isWithin ∧
    system.state.metrics.crashes = system.count Phase.hasCrashed
  full : ∀ caller, (system.phases caller).hasEntered = true → (visits caller).isFull = true
  reduced : ∀ caller phase after, (visits caller).isFull = false →
    Move (visits caller) system.state (system.phases caller) phase after →
    after.metrics = system.state.metrics
  shown : ∀ (visit : Visit) (values : List (String × String)),
    visit.destination = .probe .metrics values → visit.request.method = "GET" →
    ∃ response, (visit.answer system.state).outcome = .ok response ∧ response.status = 200 ∧
      response.body = system.state.metrics.exposition ∧
      HasLine response.body s!"http_requests_total {system.count Phase.hasEntered}" ∧
      HasLine response.body s!"http_errors_total {system.count Phase.hasErred}" ∧
      HasLine response.body s!"http_panics_total {system.count Phase.isContained}" ∧
      HasLine response.body s!"http_requests_in_flight {system.count Phase.isInside}"
  /-- Whoever is left alone from here on gets what the server answers. -/
  alone : ∀ caller, ∃ (later : System Unit) (response : Response),
    Run (fun _ => visits caller) system.state later ∧
      later.state = ((visits caller).answer system.state).state ∧
      ((visits caller).answer system.state).outcome = .ok response ∧
      (later.phases ()).response? (visits caller) = some response

/-- The counters of a new server tell at every moment how many visits have entered the full chain,
how many are inside, and how many crashes were contained, in whatever order the visits make their
steps, and whether they are answered, crash or are abandoned. -/
theorem Run.conserves [Fintype Caller] {directory : Directory}
    (run : Run visits ⟨directory, .zero⟩ system) : Conserves visits system := by
  have requests := run.value_eq tracks_requests rfl rfl
  have errors := run.value_eq tracks_errors rfl rfl
  have crashes := run.value_eq tracks_crashes rfl rfl
  have inFlight := run.value_eq tracks_inFlight rfl rfl
  constructor
  case requests => exact Int.ofNat.inj requests
  case inFlight => exact inFlight
  case crashes => exact Int.ofNat.inj crashes
  case unwinding => rw [Int.ofNat.inj crashes, system.count_hasCrashed]
  case errors => exact Int.ofNat.inj errors
  case settled =>
    intro settled
    rw [← System.count_congr settled Phase.isInside_eq_isWithin,
      ← System.count_congr settled Phase.isContained_eq_hasCrashed]
    exact ⟨Int.ofNat.inj requests, inFlight, Int.ofNat.inj crashes⟩
  case full => exact run.isFull
  case reduced =>
    -- Only the full chain is entered, so that such a visit has not been counted.
    intro caller phase after reduced move
    apply move.metrics_of_reduced reduced
    by_contra entered
    rw [run.isFull caller (Bool.not_eq_false _ ▸ entered)] at reduced
    cases reduced
  case shown =>
    intro visit values leads got
    rcases visit.shows_metrics system.state leads got with ⟨response, outcome, status, body⟩
    have line : ∀ series ∈ system.state.metrics.series,
        HasLine response.body s!"{series.name} {series.value}" := by
      intro series member
      rw [body]
      exact Metrics.hasLine_exposition member
    simp only [Metrics.series, List.forall_mem_cons, requests, errors, crashes, inFlight] at line
    exact ⟨response, outcome, status, body, line.1, line.2.1, line.2.2.1, line.2.2.2.1⟩
  case alone => exact fun caller => Run.exists_alone (visits caller) system.state

/-! ## A rush of visits -/

/-- A registration with a directory that crashes, three visits to nowhere, and a probe. -/
def rush : Fin 5 → Visit
  | 0 => ⟨.fragile, .sample, .sampleRegistration⟩
  | 1 | 2 | 3 => ⟨.sample, .sample, ⟨"GET", "/nowhere", [], []⟩⟩
  | 4 => ⟨.sample, .sample, ⟨"GET", "/liveness", [], []⟩⟩

theorem move_rush_crash (state : State) :
    Move (rush 0) state .working (.crashed .other) state := by
  have inside : (rush 0).inside state = ⟨.error .other, [], state⟩ := by
    have leads : (rush 0).destination = .anyone .register :=
      Request.registers_sampleRegistration.leads
    have read : JsonBody.read RegisterRequest.shape.read (rush 0).exchange.entered.request = _ :=
      Request.registers_sampleRegistration.read
    have complete : (RegisterRequest.mk "Ada" "Ada@x.org" "passw0rd"
        "passw0rd").fieldErrors.result = .ok () := by
      decide +kernel
    have crashing : (rush 0).exchange.entered.service.availability = .crashing .other := rfl
    have interrupted : Endpoint.register (rush 0).exchange.entered state.directory =
        .error (.crash .other) := by
      simp only [Endpoint.register, Endpoint.orStop, read, complete, crashing, mapError_ok, ok_bind,
        Availability.call]
      rfl
    rw [Visit.inside, leads]
    change Endpoint.register.handler (rush 0).exchange.entered state = _
    rw [Endpoint.handler, interrupted]
  have move : Move (rush 0) state .working (.crashed .other) ((rush 0).inside state).state :=
    .crash (by rw [inside])
  rwa [inside] at move

theorem move_rush_respond (state : State) :
    Move (rush 1) state .working (.handled (Problem.notFound "route not found").response)
      state := by
  have leads : (rush 1).destination = .nowhere := by decide +kernel
  have inside : (rush 1).inside state =
      .respond (Problem.notFound "route not found").response state := by
    rw [Visit.inside, leads]
    rfl
  have move : Move (rush 1) state .working _ ((rush 1).inside state).state :=
    .respond (by rw [inside]; rfl)
  rwa [inside] at move

theorem Run.conserves_rush :
    ∃ system, Run rush ⟨.empty, .zero⟩ system ∧ system.state.metrics = ⟨4, 1, 1, 1⟩ ∧
      (∀ caller, (system.phases caller).isBetween = false) ∧ Conserves rush system := by
  have run : Run rush ⟨.empty, .zero⟩ _ := .start
  have run := run.step 1 (.count (by decide +kernel))
  have run := run.step 0 (.count (by decide +kernel))
  have run := run.step 0 .occupy
  have run := run.step 0 (move_rush_crash _)
  have run := run.step 1 .occupy
  have run := run.step 2 (.count (by decide +kernel))
  have run := run.step 3 (.count (by decide +kernel))
  have run := run.step 0 .unwind
  have run := run.step 1 (move_rush_respond _)
  have run := run.step 2 .occupy
  have run := run.step 3 .occupy
  have run := run.step 1 (.tally rfl)
  have run := run.step 3 .abandon
  have run := run.step 0 .contain
  have run := run.step 1 (.leaveTallied rfl)
  have quiet : (rush 4).isFull = false := by decide +kernel
  rcases Visit.of_reduced _ quiet with ⟨response, outcome, -, -⟩
  have run := run.step 4 (.probe quiet outcome)
  have kept := fun state => Visit.metrics_of_reduced state quiet
  refine ⟨_, run, kept _, ?_, run.conserves⟩
  intro caller
  fin_cases caller <;> rfl

end Traffic

end AuthServer
