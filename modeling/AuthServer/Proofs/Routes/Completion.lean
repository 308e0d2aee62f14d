import AuthServer.Proofs.Routes.Failure

/-!
What the log says of a visit. The full chain logs once that it has answered, and that event can be
matched with the response: it has its status, its trace and its problem. The reduced chain logs
nothing of the kind, but it traces its responses as well.
-/

namespace AuthServer

def LogEvent.values (event : LogEvent) (name : String) : List LogValue :=
  (event.fields.filter (·.1 == name)).map Prod.snd

structure LogEvent.Reports (event : LogEvent) (response : Response) : Prop where
  status : event.values "status" = [.number response.status]
  trace : ∃ span, event.span = some span ∧ response.values "x-trace-id" = [span.traceId]
  kind : event.values "kind" = (response.record.map fun record => .quoted record.kind).toList
  error : event.values "error" = (response.record.map fun record => .plain record.detail).toList
  level : event.level = .error ↔ 500 ≤ response.status ∧ response.status < 600

namespace Stage

variable (exchange : Exchange) (response : Response)

theorem completion_eq :
    completion exchange response =
      { level :=
          if response.record.isSome && response.isServerError then LogLevel.error else .info
        source := .requests
        message :=
          if response.record.isSome && response.isServerError then "request failed"
          else "request completed"
        fields :=
          [("status", .number response.status), ("latency_ms", .number exchange.arrival.latency)] ++
            response.record.toList.flatMap fun record =>
              [("kind", .quoted record.kind), ("error", .plain record.detail)]
        span := some (spanOf exchange) } := by
  unfold completion
  cases response.record with
  | none => rfl
  | some record =>
      cases response.isServerError with
      | false => rfl
      | true => rfl

theorem isCompletion_completion : (completion exchange response).isCompletion = true := by
  rw [completion_eq, LogEvent.isCompletion]
  split <;> rfl

theorem reports_completion {delivered : Response}
    (recorded : 500 ≤ response.status → response.record ≠ none)
    (status : delivered.status = response.status) (record : delivered.record = response.record)
    (traced : delivered.values "x-trace-id" = [(spanOf exchange).traceId]) :
    (completion exchange response).Reports delivered where
  status := by
    rw [completion_eq, status]
    cases response.record <;> rfl
  trace := ⟨spanOf exchange, by rw [completion_eq], traced⟩
  kind := by
    rw [completion_eq, record]
    cases response.record <;> rfl
  error := by
    rw [completion_eq, record]
    cases response.record <;> rfl
  level := by
    rw [completion_eq, status]
    -- The level looks at the record first, so that a server error without one would go unnoticed.
    cases found : response.record with
    | none =>
        have small : ¬ 500 ≤ response.status := fun large => recorded large found
        simp [small]
    | some record => simp [Response.isServerError]

end Stage

namespace Visit

variable (visit : Visit) (state : State)

theorem completions_of_full (full : visit.isFull = true) :
    (visit.answer state).events.filter LogEvent.isCompletion =
      [Stage.completion visit.exchange.entered (visit.inside state.entered).contained] := by
  have inner : ((visit.inside state.entered).events.map fun event =>
      { event with span := some (Stage.spanOf visit.exchange.entered) }).filter
        LogEvent.isCompletion = [] := by
    rw [List.filter_eq_nil_iff]
    intro event member
    rcases List.mem_map.mp member with ⟨logged, written, rfl⟩
    simpa [LogEvent.isCompletion] using (visit.isInner_inside state.entered).events logged written
  rw [answer_of_full state full, List.filter_append, inner, List.nil_append,
    List.filter_cons_of_pos (Stage.isCompletion_completion _ _), List.filter_nil]

/-- Every visit is answered, and its response has one trace. If the full chain answers, the log says
once that it did, with what the response reports; if the reduced chain does, the log never says
so. -/
theorem completes :
    ∃ response, (visit.answer state).outcome = .ok response ∧
      response.values "x-trace-id" = [visit.arrival.traceId] ∧
      (visit.isFull = true → ∃ event,
        (visit.answer state).events.filter LogEvent.isCompletion = [event] ∧
          event.Reports response) ∧
      (visit.isFull = false →
        (visit.answer state).events.filter LogEvent.isCompletion = []) := by
  cases chain : visit.isFull with
  | true =>
      have outcome := congrArg Answer.outcome (answer_of_full state chain)
      refine ⟨_, outcome, visit.values_deliver _, fun _ => ?_, by simp⟩
      refine ⟨_, visit.completions_of_full state chain, ?_⟩
      apply Stage.reports_completion
      · intro large
        rcases visit.exists_problem state.entered (le_trans (by decide) large) with
          ⟨problem, translated⟩
        rw [translated]
        exact Option.some_ne_none _
      · exact visit.status_deliver _
      · exact visit.record_deliver _
      · exact visit.values_deliver _
  | false =>
      rcases of_reduced state chain with ⟨response, outcome, -, isInner⟩
      refine ⟨_, outcome, visit.values_deliver _, by simp, fun _ => ?_⟩
      rw [List.filter_eq_nil_iff]
      intro event member
      simp [isInner.events event member]

end Visit

end AuthServer
