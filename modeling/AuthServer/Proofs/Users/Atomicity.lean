import AuthServer.Proofs.Users.Replay
import Mathlib.Algebra.Order.BigOperators.Group.Finset
import Mathlib.Data.Fintype.Basic
import Mathlib.Tactic.FinCases

/-!
Calls that overlap come to the same as calls made one at a time, each at the moment at which its
outcome is settled. The invariant says so of the store and the outcomes, and what every call knows
in its phase carries it from one step to the next, since the lock keeps others from changing what a
call has seen.
-/

namespace AuthServer.Interleaving

variable {Hash Caller : Type} {hasher : Hasher Hash} {calls : Caller → Call}
  {start : Directory} {store : Store Hash} {system next : System Caller Hash}
  {log : List (Caller × Outcome)} {effect : Option (Caller × Outcome)}

theorem Compatible.symm {mine theirs : Option Access} (compatible : Compatible mine theirs) :
    Compatible theirs mine :=
  ⟨compatible.2, compatible.1⟩

theorem compatible_none (mine : Option Access) : Compatible mine none :=
  ⟨fun _ => rfl, nofun⟩

structure Invariant (hasher : Hasher Hash) (calls : Caller → Call) (start : Directory)
    (log : List (Caller × Outcome)) (system : System Caller Hash) : Prop where
  replayed : ∃ directory, Replay calls start log directory ∧
    Represents hasher system.store directory
  exclusive : ∀ first second, first ≠ second →
    Compatible (system.phases first).access (system.phases second).access
  knows : ∀ caller, Knows hasher system.store (calls caller) (system.phases caller)
  logged : ∀ caller outcome,
    (caller, outcome) ∈ log ↔ (system.phases caller).outcome? = some outcome
  once : (log.map Prod.fst).Nodup

namespace Invariant

theorem of_called (represents : Represents hasher store start) :
    Invariant hasher calls start [] ⟨store, fun _ => .called⟩ where
  replayed := ⟨start, .start, represents⟩
  exclusive _ _ _ := compatible_none _
  knows _ := .called
  logged _ _ := by simp [Phase.outcome?]
  once := List.nodup_nil

theorem compatible_step (invariant : Invariant hasher calls start log system) {caller : Caller}
    {settled : Option Outcome} {phase : Phase Hash}
    (move : Move hasher system.store (calls caller) (system.phases caller) settled phase store)
    (waits : (system.phases caller).access = none →
      ∀ other, other ≠ caller → Compatible phase.access (system.phases other).access)
    {other : Caller} (different : other ≠ caller) :
    Compatible phase.access (system.phases other).access := by
  by_cases outside : (system.phases caller).access = none
  · exact waits outside other different
  · rcases move.access_eq_or_none outside with same | released
    · rw [same]
      exact invariant.exclusive caller other different.symm
    · rw [released]
      exact (compatible_none _).symm

end Invariant

variable [DecidableEq Caller]

theorem Invariant.step (faithful : hasher.IsFaithful) (consistent : start.IsConsistent)
    (invariant : Invariant hasher calls start log system)
    (step : Step hasher calls system effect next) :
    Invariant hasher calls start (effect.toList ++ log) next := by
  cases step with
  | @move caller settled phase store move waits =>
      rcases invariant.replayed with ⟨directory, replay, represents⟩
      have simulated := move.simulates faithful (invariant.knows caller)
        (replay.isConsistent consistent) represents
      constructor
      case replayed =>
        cases settled with
        | none => exact ⟨directory, replay, simulated ▸ represents⟩
        | some outcome =>
            rcases simulated with ⟨rfl, represents⟩
            exact ⟨_, replay.perform caller, represents⟩
      case exclusive =>
        intro first second different
        by_cases isFirst : first = caller
        · subst isFirst
          rw [System.advance_phases_self, System.advance_phases_of_ne different.symm]
          exact invariant.compatible_step move waits different.symm
        · by_cases isSecond : second = caller
          · subst isSecond
            rw [System.advance_phases_self, System.advance_phases_of_ne different]
            exact (invariant.compatible_step move waits different).symm
          · rw [System.advance_phases_of_ne isFirst, System.advance_phases_of_ne isSecond]
            exact invariant.exclusive first second different
      case knows =>
        intro other
        by_cases same : other = caller
        · subst same
          rw [System.advance_phases_self]
          exact move.knows faithful (invariant.knows other)
        · rw [System.advance_phases_of_ne same]
          -- Whoever could change the store keeps the others out, so that they know nothing of it.
          by_cases alone : (system.phases caller).access = some .exclusive
          · exact (invariant.knows other).of_access ((invariant.exclusive _ _ same).2 alone)
          · have kept := move.store_eq alone
            subst kept
            exact invariant.knows other
      case logged =>
        intro other outcome
        by_cases same : other = caller
        · subst same
          rw [System.advance_phases_self, move.outcome?_eq]
          cases settled with
          | none => simpa using invariant.logged other outcome
          | some result =>
              rw [List.mem_append, invariant.logged, move.outcome?_eq_none nofun]
              simp [eq_comm]
        · rw [System.advance_phases_of_ne same, ← invariant.logged]
          cases settled with
          | none => simp
          | some result => simp [same]
      case once =>
        cases settled with
        | none => exact invariant.once
        | some result =>
            refine List.nodup_cons.mpr ⟨?_, invariant.once⟩
            intro member
            rcases List.mem_map.mp member with ⟨⟨other, outcome⟩, member, same⟩
            cases same
            have settled := (invariant.logged _ outcome).mp member
            rw [move.outcome?_eq_none nofun] at settled
            cases settled

theorem Run.invariant (faithful : hasher.IsFaithful) (consistent : start.IsConsistent)
    (represents : Represents hasher store start) (run : Run hasher calls store log system) :
    Invariant hasher calls start log system := by
  induction run with
  | start => exact .of_called represents
  | step run step induction => exact induction.step faithful consistent step

/-! ## Progress -/

/-- As long as a call has not returned, some call can make a step: whoever holds the lock, or
anybody if nobody does. -/
theorem Invariant.exists_step (faithful : hasher.IsFaithful)
    (invariant : Invariant hasher calls start log system) {caller : Caller}
    (unfinished : ∀ outcome, system.phases caller ≠ .returned outcome) :
    ∃ effect next, Step hasher calls system effect next := by
  by_cases held : ∃ holder, (system.phases holder).access ≠ none
  · rcases held with ⟨holder, inside⟩
    have busy : ∀ outcome, system.phases holder ≠ .returned outcome := by
      intro outcome same
      rw [same] at inside
      exact inside rfl
    rcases Move.exists_of_knows faithful (invariant.knows holder) busy with ⟨_, _, _, move⟩
    exact ⟨_, _, .move holder move (fun outside => absurd outside inside)⟩
  · push Not at held
    rcases Move.exists_of_knows faithful (invariant.knows caller) unfinished with ⟨_, _, _, move⟩
    refine ⟨_, _, .move caller move ?_⟩
    intro _ other _
    rw [held other]
    exact compatible_none _

def System.rank [Fintype Caller] (system : System Caller Hash) : Nat :=
  ∑ caller, (system.phases caller).rank

theorem Step.rank_lt [Fintype Caller] (step : Step hasher calls system effect next) :
    next.rank < system.rank := by
  cases step with
  | @move caller settled phase store move waits =>
      apply Finset.sum_lt_sum
      · intro other _
        by_cases same : other = caller
        · subst same
          rw [System.advance_phases_self]
          exact move.rank_lt.le
        · rw [System.advance_phases_of_ne same]
      · refine ⟨caller, Finset.mem_univ caller, ?_⟩
        rw [System.advance_phases_self]
        exact move.rank_lt

theorem Step.store_eq_or_registered (step : Step hasher calls system effect next) :
    next.store = system.store ∨ ∃ caller user, effect = some (caller, .registered (.ok user)) := by
  cases step with
  | @move caller settled phase store move waits =>
      rcases move.store_eq_or_registered with same | ⟨user, rfl⟩
      · exact .inl same
      · exact .inr ⟨caller, user, rfl⟩

/-! ## Atomicity -/

/-- What can be seen of calls that overlap: the store, and the outcomes in the order in which they
were settled. -/
structure IsAtomic [Fintype Caller] (hasher : Hasher Hash) (calls : Caller → Call)
    (start : Directory) (log : List (Caller × Outcome)) (system : System Caller Hash) : Prop where
  stored : ∀ id entry, system.store id = some entry → Email.IsStored entry.user.email
  unshared : ∀ id entry otherId other, system.store id = some entry →
    system.store otherId = some other → entry.user.email = other.user.email → id = otherId
  keyed : ∀ id entry, system.store id = some entry → entry.user.id = id
  /-- The calls made one at a time, in the order of the outcomes, come to the same. -/
  replayed : ∃ directory, Replay calls start log directory ∧
    Represents hasher system.store directory
  once : (log.map Prod.fst).Nodup
  begun : ∀ caller outcome, (caller, outcome) ∈ log → system.phases caller ≠ .called
  returned : ∀ caller outcome, system.phases caller = .returned outcome → (caller, outcome) ∈ log
  registered : ∀ caller new id now outcome, calls caller = .register new id now →
    (caller, outcome) ∈ log →
    outcome = .registered (.ok (entered new id now)) ∨
      outcome = .registered (.error .duplicateEmail)
  /-- Of the registrations for a free address exactly one makes an account, as soon as one of them
  is settled. -/
  winner : ∀ email caller outcome, start.accountOf? email = none →
    (calls caller).address? = some email → (caller, outcome) ∈ log →
    ∃! winner, (calls winner).address? = some email ∧ Succeeds log winner
  taken : ∀ email caller, start.accountOf? email ≠ none →
    (calls caller).address? = some email → ¬ Succeeds log caller
  unchanged : ∀ effect next, Step hasher calls system effect next →
    next.store = system.store ∨ ∃ caller user, effect = some (caller, .registered (.ok user))
  authenticated : ∀ later earlier caller outcome email password,
    log = later ++ (caller, outcome) :: earlier → calls caller = .authenticate email password →
    ∃ result, outcome = .authenticated result ∧
      (∀ principal, result = .ok principal ↔
        ∃ id account, IsAccount calls start earlier id account ∧
          account.user.email = Email.normalize email ∧ account.password = password ∧
          principal = account.user.principal) ∧
      ∀ error, result = .error error → error = .invalidCredentials
  found : ∀ later earlier caller outcome id,
    log = later ++ (caller, outcome) :: earlier → calls caller = .find id →
    ∃ result, outcome = .found result ∧
      (∀ user, result = .ok user ↔
        ∃ account, IsAccount calls start earlier id account ∧ user = account.user) ∧
      ∀ error, result = .error error → error = .notFound
  /-- Calls wait for each other, but never for good, and they come to an end. -/
  progress : ∀ caller, (∀ outcome, system.phases caller ≠ .returned outcome) →
    ∃ effect next, Step hasher calls system effect next
  descent : ∀ effect next, Step hasher calls system effect next → next.rank < system.rank

/-- However calls overlap, the directory is at every moment where the same calls lead that are made
one at a time. -/
theorem Run.isAtomic [Fintype Caller] (faithful : hasher.IsFaithful)
    (consistent : start.IsConsistent) (represents : Represents hasher store start)
    (fresh : HasFreshIds calls start)
    (run : Run hasher calls store log system) : IsAtomic hasher calls start log system := by
  have invariant := run.invariant faithful consistent represents
  rcases invariant.replayed with ⟨directory, replay, represents⟩
  have known := replay.isConsistent consistent
  constructor
  case stored =>
    intro id entry present
    rcases represents.account_of_entry present with ⟨account, found, stands⟩
    exact stands.user ▸ known.stored id account (Directory.mem_of_account? found)
  case unshared =>
    intro id entry otherId other present otherPresent same
    rcases represents.account_of_entry present with ⟨account, found, stands⟩
    rcases represents.account_of_entry otherPresent with ⟨_, otherFound, otherStands⟩
    rw [stands.user, otherStands.user] at same
    exact known.unshared _ _ _ _ (Directory.mem_of_account? found)
      (Directory.mem_of_account? otherFound) same
  case keyed =>
    intro id entry present
    rcases represents.account_of_entry present with ⟨account, found, stands⟩
    exact stands.user ▸ known.ids id account (Directory.mem_of_account? found)
  case replayed => exact ⟨directory, replay, represents⟩
  case once => exact invariant.once
  case begun =>
    intro caller outcome member isCalled
    rw [invariant.logged, isCalled] at member
    cases member
  case returned =>
    intro caller outcome hasReturned
    rw [invariant.logged, hasReturned]
    rfl
  case registered =>
    intro caller new id now outcome made member
    exact replay.registered made member
  case winner =>
    intro email caller outcome free address member
    rcases replay.exists_succeeds consistent fresh free address member with
      ⟨winner, winnerAddress, succeeds⟩
    refine ⟨winner, ⟨winnerAddress, succeeds⟩, ?_⟩
    rintro other ⟨otherAddress, otherSucceeds⟩
    exact replay.succeeds_unique consistent fresh otherAddress otherSucceeds winnerAddress succeeds
  case taken =>
    intro email caller taken address
    exact replay.not_succeeds_of_taken consistent fresh taken address
  case unchanged =>
    intro effect next step
    exact step.store_eq_or_registered
  case authenticated =>
    intro later earlier caller outcome email password split made
    subst split
    exact replay.authenticated consistent fresh made
  case found =>
    intro later earlier caller outcome id split made
    subst split
    exact replay.found fresh made
  case progress =>
    intro caller unfinished
    exact invariant.exists_step faithful unfinished
  case descent =>
    intro effect next step
    exact step.rank_lt

/-! ## Two registrations and a login -/

def plainHasher : Hasher (String × String) where
  hash salt password := .ok (salt, password)
  verify password hash := hash.2 == password

theorem plainHasher_isFaithful : plainHasher.IsFaithful where
  total salt password := ⟨(salt, password), rfl⟩
  verifies := by
    rintro salt password hash ⟨⟩ other
    rw [plainHasher, beq_iff_eq, eq_comm]

/-- The first two callers want the same address, and the third logs in with it. -/
def contest : Fin 3 → Call
  | 0 => .register ⟨"Ada", "Ada@x.org", "first", .ofList [.user]⟩ "a" .epoch
  | 1 => .register ⟨"Eda", " ada@X.org ", "second", .ofList [.user]⟩ "e" .epoch
  | 2 => .authenticate "ADA@x.org" "second"

theorem contest_hasFreshIds : HasFreshIds contest .empty where
  unused _ _ _ _ _ := rfl
  distinct := by
    intro first second new id now otherNew otherNow made otherMade
    have drawn : ∀ caller new id now, contest caller = .register new id now →
        id = "a" ∧ caller = 0 ∨ id = "e" ∧ caller = 1 := by
      intro caller new id now made
      fin_cases caller <;> cases made
      · exact .inl ⟨rfl, rfl⟩
      · exact .inr ⟨rfl, rfl⟩
    rcases drawn _ _ _ _ made with ⟨rfl, rfl⟩ | ⟨rfl, rfl⟩ <;>
      rcases drawn _ _ _ _ otherMade with ⟨same, rfl⟩ | ⟨same, rfl⟩
    · rfl
    · exact absurd same (by decide)
    · exact absurd same (by decide)
    · rfl

instance (mine theirs : Option Access) : Decidable (Compatible mine theirs) :=
  inferInstanceAs (Decidable (_ ∧ _))

theorem contest_run : ∃ system : System (Fin 3) (String × String),
    Run plainHasher contest (fun _ => none)
      [(2, .authenticated (.ok ⟨"e", .ofList [.user], "Eda"⟩)),
        (0, .registered (.error .duplicateEmail)),
        (1, .registered (.ok ⟨"e", "Eda", "ada@x.org", .ofList [.user], .ofInstant .epoch⟩))]
      system := by
  have run : Run plainHasher contest (fun _ => none) [] _ := .start
  have run := run.step (.move 0 (.hash "s" rfl) (by decide))
  have run := run.step (.move 1 (.hash "t" rfl) (by decide))
  have run := run.step (.move 1 .write (by decide))
  have run := run.step (.move 1 (.accept (by rintro ⟨id, entry, ⟨⟩, -⟩)) (by decide))
  have run := run.step (.move 1 .insert (by decide))
  have run := run.step (.move 1 .leave (by decide))
  have run := run.step (.move 0 .write (by decide))
  have run := run.step (.move 0 (.duplicate ⟨"e", _, rfl, by decide⟩) (by decide))
  have run := run.step (.move 0 .leave (by decide))
  have run := run.step (.move 2 .readForLogin (by decide))
  have run := run.step (.move 2 (.pick "e" rfl (by decide)) (by decide))
  have run := run.step (.move 2 (.verified (by decide)) (by decide))
  have run := run.step (.move 2 .leave (by decide))
  exact ⟨_, run⟩

theorem represents_empty (hasher : Hasher Hash) : Represents hasher (fun _ => none) .empty :=
  fun _ => .none

theorem Run.isAtomic_contest :
    plainHasher.IsFaithful ∧ Directory.empty.IsConsistent ∧
      Represents plainHasher (fun _ => none) .empty ∧ HasFreshIds contest .empty ∧
      ∃ log system, Run plainHasher contest (fun _ => none) log system ∧ log.length = 3 ∧
        IsAtomic plainHasher contest .empty log system := by
  refine ⟨plainHasher_isFaithful, Directory.isConsistent_empty, represents_empty plainHasher,
    contest_hasFreshIds, ?_⟩
  rcases contest_run with ⟨system, run⟩
  exact ⟨_, system, run, rfl, Run.isAtomic plainHasher_isFaithful Directory.isConsistent_empty
    (represents_empty plainHasher) contest_hasFreshIds run⟩

end AuthServer.Interleaving
