import AuthServer.Shutdown

/-!
Signals that have many holders. The clones of a signal share it: whoever holds one can ask for
shutdown, and all of them see that it was asked for. The log is told once, with the reason of the
first who asked, but of failed writes it is told every time.
-/

namespace AuthServer

namespace Shutdown

/-! ## Calls -/

inductive Call where
  | trigger (reason : String)
  | escalate (error : IoError)
deriving DecidableEq, Repr

structure Outcome where
  /-- Whether a failure was fatal, if one was escalated. -/
  verdict : Option Bool
  signal : Shutdown
  events : List LogEvent

def perform (signal : Shutdown) : Call → Outcome
  | .trigger reason =>
      let (signal, events) := signal.trigger reason
      ⟨none, signal, events⟩
  | .escalate error =>
      let (isFatal, signal, events) := signal.escalate error
      ⟨some isFatal, signal, events⟩

namespace Call

/-- Whether a call asks for shutdown. All do but those that escalate a mere disconnect. -/
def asks : Call → Bool
  | trigger _ => true
  | escalate error => !error.kind.isDisconnect

def reason : Call → String
  | trigger reason => reason
  | escalate _ => "transport error"

def request (call : Call) : LogEvent :=
  .plain .info .shutdown "Shutdown requested" [("reason", .quoted call.reason)]

def verdict : Call → Option Bool
  | trigger _ => none
  | escalate error => some (!error.kind.isDisconnect)

def reports : Call → List LogEvent
  | trigger _ => []
  | escalate error =>
      if error.kind.isDisconnect then []
      else
        [.plain .error .shutdown "Transport write failed"
          [("error", .plain error.message), ("kind", .plain error.kind.name)]]

theorem message_of_mem_reports {call : Call} {event : LogEvent} (member : event ∈ call.reports) :
    event.level = .error ∧ event.message ≠ "Shutdown requested" := by
  cases call with
  | trigger reason => cases member
  | escalate error =>
      simp only [reports] at member
      split at member
      · cases member
      · cases List.mem_singleton.mp member
        refine ⟨rfl, ?_⟩
        simp only [LogEvent.plain]
        decide

end Call

theorem perform_eq (signal : Shutdown) (call : Call) :
    signal.perform call = {
      verdict := call.verdict
      signal := ⟨signal.triggered || call.asks⟩
      events := call.reports ++
        if call.asks && !signal.triggered then [call.request] else [] } := by
  rcases signal with ⟨triggered⟩
  cases call with
  | trigger reason => cases triggered <;> rfl
  | escalate error =>
      cases disconnect : error.kind.isDisconnect <;> cases triggered <;>
        simp [perform, escalate, trigger, Call.verdict, Call.asks, Call.reports, Call.request,
          Call.reason, disconnect]

def requests (events : List LogEvent) : List LogEvent :=
  events.filter (·.message = "Shutdown requested")

def errors (events : List LogEvent) : List LogEvent :=
  events.filter (·.level = .error)

theorem requests_perform (signal : Shutdown) (call : Call) :
    requests (signal.perform call).events =
      if call.asks && !signal.triggered then [call.request] else [] := by
  have none : requests call.reports = [] :=
    List.filter_eq_nil_iff.mpr fun event member => by
      simpa using (Call.message_of_mem_reports member).2
  rw [perform_eq, requests, List.filter_append, ← requests, none, List.nil_append]
  split <;> rfl

theorem errors_perform (signal : Shutdown) (call : Call) :
    errors (signal.perform call).events = call.reports := by
  have all : errors call.reports = call.reports :=
    List.filter_eq_self.mpr fun event member => by
      simpa using (Call.message_of_mem_reports member).1
  rw [perform_eq, errors, List.filter_append, ← errors, all]
  split <;> simp [Call.request, LogEvent.plain]

end Shutdown

/-! ## Holders -/

/-- The signals there are and the handles on them. A handle holds the place of its signal. -/
structure Holders where
  signals : List Shutdown
  handles : List Nat

namespace Holders

open Shutdown

def nobody : Holders := ⟨[], []⟩

def isTriggered (holders : Holders) (handle : Nat) : Option Bool :=
  (holders.handles[handle]?.bind fun place => holders.signals[place]?).map Shutdown.triggered

/-- A call that was made on the signal at a place, with its answer and what the log was told. -/
structure Turn where
  place : Nat
  call : Call
  verdict : Option Bool
  events : List LogEvent

/-- What the holders of signals come to, one step after another, and the calls they make. -/
inductive Leads (start : Holders) : List Turn → Holders → Prop where
  | stay : Leads start [] start
  | create {turns : List Turn} {holders : Holders} (leads : Leads start turns holders) :
      Leads start turns
        ⟨holders.signals ++ [.idle], holders.handles ++ [holders.signals.length]⟩
  | clone {turns : List Turn} {holders : Holders} (leads : Leads start turns holders)
      {handle place : Nat} (held : holders.handles[handle]? = some place) :
      Leads start turns { holders with handles := holders.handles ++ [place] }
  | call {turns : List Turn} {holders : Holders} (leads : Leads start turns holders)
      {handle place : Nat} (held : holders.handles[handle]? = some place) {signal : Shutdown}
      (found : holders.signals[place]? = some signal) (call : Call) :
      Leads start
        (turns ++ [⟨place, call, (signal.perform call).verdict, (signal.perform call).events⟩])
        { holders with signals := holders.signals.set place (signal.perform call).signal }

def turnsAt (place : Nat) (turns : List Turn) : List Turn :=
  turns.filter (·.place = place)

def events (turns : List Turn) : List LogEvent :=
  turns.flatMap (·.events)

theorem turnsAt_append (place : Nat) (turns : List Turn) (turn : Turn) :
    turnsAt place (turns ++ [turn]) =
      if turn.place = place then turnsAt place turns ++ [turn] else turnsAt place turns := by
  split <;> rename_i same <;> simp [turnsAt, same]

theorem requests_events_append (turns : List Turn) (turn : Turn) :
    requests (events (turns ++ [turn])) = requests (events turns) ++ requests turn.events := by
  simp [events, requests]

/-! ## Steps -/

structure Turn.IsFair (turn : Turn) : Prop where
  verdict : turn.verdict = turn.call.verdict
  errors : errors turn.events = turn.call.reports

/-- What the holders of signals know after the calls of a run. -/
structure Know (turns : List Turn) (holders : Holders) : Prop where
  stands : ∀ place ∈ holders.handles, place < holders.signals.length
  known : ∀ turn ∈ turns, turn.place < holders.signals.length
  fair : ∀ turn ∈ turns, turn.IsFair
  triggered : ∀ place signal, holders.signals[place]? = some signal →
    signal.triggered = (turnsAt place turns).any (·.call.asks)
  requested : ∀ place, requests (events (turnsAt place turns)) =
    ((turnsAt place turns).find? (·.call.asks)).toList.map (·.call.request)

theorem know_nobody : Know [] nobody := by
  constructor <;> simp [nobody, turnsAt, events, requests]

namespace Know

variable {turns : List Turn} {holders : Holders}

theorem turnsAt_eq_nil (know : Know turns holders) {place : Nat}
    (unknown : holders.signals.length ≤ place) : turnsAt place turns = [] := by
  rw [turnsAt, List.filter_eq_nil_iff]
  intro turn member
  have bound := know.known turn member
  simp only [decide_eq_true_eq]
  omega

theorem create (know : Know turns holders) :
    Know turns ⟨holders.signals ++ [.idle], holders.handles ++ [holders.signals.length]⟩ where
  stands := by
    intro place member
    rw [List.length_append, List.length_singleton]
    rcases List.mem_append.mp member with old | new
    · exact Nat.lt_succ_of_lt (know.stands place old)
    · rw [List.mem_singleton.mp new]
      exact Nat.lt_succ_self _
  known turn member := by
    rw [List.length_append]
    exact Nat.lt_add_right _ (know.known turn member)
  fair := know.fair
  triggered := by
    intro place signal found
    by_cases old : place < holders.signals.length
    · rw [List.getElem?_append_left old] at found
      exact know.triggered place signal found
    · have new := Nat.le_of_not_lt old
      rw [List.getElem?_append_right new] at found
      rw [know.turnsAt_eq_nil new]
      cases List.mem_singleton.mp (List.mem_of_getElem? found)
      rfl
  requested := know.requested

theorem clone (know : Know turns holders) {handle place : Nat}
    (held : holders.handles[handle]? = some place) :
    Know turns { holders with handles := holders.handles ++ [place] } where
  stands := by
    intro other member
    rcases List.mem_append.mp member with old | new
    · exact know.stands other old
    · rw [List.mem_singleton.mp new]
      exact know.stands place (List.mem_of_getElem? held)
  known := know.known
  fair := know.fair
  triggered := know.triggered
  requested := know.requested

/-- A call changes what is known of its own signal only. The log is told of a request if nobody
asked before. -/
theorem call (know : Know turns holders) {place : Nat} {signal : Shutdown}
    (found : holders.signals[place]? = some signal) (call : Call) :
    Know (turns ++ [⟨place, call, (signal.perform call).verdict, (signal.perform call).events⟩])
      { holders with signals := holders.signals.set place (signal.perform call).signal } where
  stands := by
    simpa using know.stands
  known := by
    intro turn member
    rw [List.length_set]
    rcases List.mem_append.mp member with old | new
    · exact know.known turn old
    · rw [List.mem_singleton.mp new]
      exact (List.getElem?_eq_some_iff.mp found).1
  fair := by
    intro turn member
    rcases List.mem_append.mp member with old | new
    · exact know.fair turn old
    · rw [List.mem_singleton.mp new]
      exact ⟨by rw [perform_eq], errors_perform signal call⟩
  triggered := by
    intro other later foundLater
    by_cases same : place = other
    · subst same
      rw [List.getElem?_set_self (List.getElem?_eq_some_iff.mp found).1] at foundLater
      cases foundLater
      rw [turnsAt_append, if_pos rfl, List.any_append, ← know.triggered place signal found,
        perform_eq]
      simp
    · rw [List.getElem?_set_ne same] at foundLater
      rw [turnsAt_append, if_neg same]
      exact know.triggered other later foundLater
  requested := by
    intro other
    by_cases same : place = other
    · subst same
      have asked := know.triggered place signal found
      rw [turnsAt_append, if_pos rfl, requests_events_append, know.requested, requests_perform,
        List.find?_append]
      cases first : (turnsAt place turns).find? (·.call.asks) with
      | none =>
          have unasked : signal.triggered = false := by
            rw [asked]
            simpa using first
          cases asks : call.asks <;> simp [unasked, asks]
      | some turn =>
          have triggered : signal.triggered = true := by
            rw [asked, List.any_eq_true]
            exact ⟨turn, List.mem_of_find?_eq_some first, by simpa using List.find?_some first⟩
          simp [triggered]
    · rw [turnsAt_append, if_neg same]
      exact know.requested other

end Know

theorem Leads.know {turns : List Turn} {holders : Holders} (run : Leads nobody turns holders) :
    Know turns holders := by
  induction run with
  | stay => exact know_nobody
  | create _ know => exact know.create
  | clone _ held know => exact know.clone held
  | call _ _ found call know => exact know.call found call

/-! ## Further steps -/

theorem isTriggered_eq_some_iff {holders : Holders} {handle : Nat} {shown : Bool} :
    holders.isTriggered handle = some shown ↔ ∃ place signal,
      holders.handles[handle]? = some place ∧ holders.signals[place]? = some signal ∧
        signal.triggered = shown := by
  simp only [isTriggered, Option.map_eq_some_iff, Option.bind_eq_some_iff]
  constructor
  · rintro ⟨signal, ⟨place, held, found⟩, same⟩
    exact ⟨place, signal, held, found, same⟩
  · rintro ⟨place, signal, held, found, same⟩
    exact ⟨signal, ⟨place, held, found⟩, same⟩

private theorem getElem?_append_of_some {α : Type} {front : List α} {index : Nat} {value : α}
    (found : front[index]? = some value) (back : List α) :
    (front ++ back)[index]? = some value := by
  rw [List.getElem?_append_left (List.getElem?_eq_some_iff.mp found).1, found]

theorem Leads.keeps {start holders : Holders} {turns : List Turn}
    (leads : Leads start turns holders) {handle : Nat}
    (shown : start.isTriggered handle = some true) : holders.isTriggered handle = some true := by
  induction leads with
  | stay => exact shown
  | create _ shown =>
      rcases isTriggered_eq_some_iff.mp shown with ⟨place, signal, held, found, triggered⟩
      exact isTriggered_eq_some_iff.mpr ⟨place, signal, getElem?_append_of_some held _,
        getElem?_append_of_some found _, triggered⟩
  | clone _ _ shown =>
      rcases isTriggered_eq_some_iff.mp shown with ⟨place, signal, held, found, triggered⟩
      exact isTriggered_eq_some_iff.mpr
        ⟨place, signal, getElem?_append_of_some held _, found, triggered⟩
  | @call _ _ _ _ called _ other foundOther call shown =>
      rcases isTriggered_eq_some_iff.mp shown with ⟨place, signal, held, found, triggered⟩
      apply isTriggered_eq_some_iff.mpr
      by_cases same : called = place
      · subst same
        cases foundOther.symm.trans found
        refine ⟨called, _, held,
          List.getElem?_set_self (List.getElem?_eq_some_iff.mp found).1, ?_⟩
        rw [perform_eq, triggered, Bool.true_or]
      · exact ⟨place, signal, held, (List.getElem?_set_ne same).trans found, triggered⟩

/-! ## Main result -/

/-- A failure that is passed over when it keeps a write from being done is passed over when it keeps
a connection from being accepted. -/
theorem acceptFailure_of_escalate {signal : Shutdown} {error : IoError}
    (passedOver : (signal.escalate error).1 = false) : error.acceptFailure = .connection := by
  unfold escalate at passedOver
  split at passedOver
  · rename_i disconnect
    simp [IoError.acceptFailure, disconnect]
  · cases passedOver

/-- Whatever is done with signals and their clones, and in whatever order, every call can be made
through every handle, and a handle shows at each point that shutdown was asked for if and only if
some call on its signal asked for it, through whichever clone. It shows so for good. The log is told
of the first such call and of no other one, and of each failure that is fatal. No failure is passed
over by those who write and fatal to those who accept. -/
theorem Leads.asked_once {turns : List Turn} {holders : Holders} (run : Leads nobody turns holders)
    {handle place : Nat} (held : holders.handles[handle]? = some place) :
    (∀ call, ∃ turn later, turn.place = place ∧ turn.call = call ∧
      Leads nobody (turns ++ [turn]) later) ∧
    holders.isTriggered handle = some ((turnsAt place turns).any (·.call.asks)) ∧
    (∀ further later, Leads holders further later →
      holders.isTriggered handle = some true → later.isTriggered handle = some true) ∧
    (∀ turn ∈ turnsAt place turns, ∀ error, turn.call = .escalate error →
      turn.verdict = some (!error.kind.isDisconnect)) ∧
    requests (events (turnsAt place turns)) =
      ((turnsAt place turns).find? (·.call.asks)).toList.map (·.call.request) ∧
    (∀ turn ∈ turnsAt place turns, errors turn.events = turn.call.reports) ∧
    ∀ signal error, (escalate signal error).1 = false → error.acceptFailure = .connection := by
  have know := run.know
  have found := List.getElem?_eq_getElem (know.stands place (List.mem_of_getElem? held))
  refine ⟨fun call => ⟨_, _, rfl, rfl, run.call held found call⟩, ?_, fun _ _ leads => leads.keeps,
    ?_, know.requested place, ?_, fun _ _ => acceptFailure_of_escalate⟩
  · exact isTriggered_eq_some_iff.mpr ⟨place, _, held, found, know.triggered place _ found⟩
  · intro turn member error escalates
    rw [(know.fair turn (List.mem_filter.mp member).1).verdict, escalates]
    rfl
  · intro turn member
    exact (know.fair turn (List.mem_filter.mp member).1).errors

/-- Two signals, of which the second is triggered first. Through a clone of the first a disconnect
and then a failure is escalated, and only the failure asks for shutdown. -/
theorem Leads.asked_once_sample :
    ∃ turns holders, Leads nobody turns holders ∧ turns.length = 5 ∧
      holders.isTriggered 0 = some true ∧
      requests (events (turnsAt 0 turns)) =
        [.plain .info .shutdown "Shutdown requested" [("reason", .quoted "transport error")]] ∧
      (turnsAt 0 turns).map (fun turn => (turn.verdict, (errors turn.events).length)) =
        [(some false, 0), (some true, 1), (none, 0), (some true, 1)] := by
  have made : Leads nobody [] ⟨[.idle, .idle], [0, 0, 1]⟩ :=
    (Leads.stay.create.clone (show [0][0]? = some 0 from rfl)).create
  have other := made.call (show [0, 0, 1][2]? = some 1 from rfl) rfl (.trigger "SIGINT")
  have swallowed := other.call (show [0, 0, 1][1]? = some 0 from rfl) rfl
    (.escalate (.simple .brokenPipe))
  have fatal := swallowed.call (show [0, 0, 1][1]? = some 0 from rfl) rfl
    (.escalate (.described .other "disk on fire"))
  have triggered := fatal.call (show [0, 0, 1][0]? = some 0 from rfl) rfl (.trigger "SIGTERM")
  have again := triggered.call (show [0, 0, 1][0]? = some 0 from rfl) rfl (.escalate (.system 5))
  rcases again.asked_once (show [0, 0, 1][0]? = some 0 from rfl) with
    ⟨-, shown, -, -, requested, -⟩
  exact ⟨_, _, again, rfl, shown, requested, by decide +kernel⟩

end Holders

end AuthServer
