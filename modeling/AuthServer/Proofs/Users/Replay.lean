import AuthServer.Proofs.Users.Simulation

/-!
Calls of the directory made one at a time: which accounts there are, which of the registrations for
an address made one, and who is let in.
-/

namespace AuthServer.Interleaving

variable {Caller : Type} {calls : Caller → Call} {start directory : Directory}
  {log later earlier : List (Caller × Outcome)}

theorem Call.perform_register (new : NewUser) (id : String) (now : Instant)
    (directory : Directory) :
    (Call.register new id now).perform directory =
      match directory.accountOf? (Email.normalize new.email) with
      | some _ => (.registered (.error .duplicateEmail), directory)
      | none =>
          (.registered (.ok (entered new id now)),
            directory.insert id ⟨entered new id now, new.password⟩) := by
  rw [Call.perform, Directory.register]
  cases directory.accountOf? (Email.normalize new.email) <;> rfl

def IsAccount (calls : Caller → Call) (start : Directory) (log : List (Caller × Outcome))
    (id : String) (account : Account) : Prop :=
  start.account? id = some account ∨
    ∃ caller new now, calls caller = .register new id now ∧
      (caller, .registered (.ok (entered new id now))) ∈ log ∧
      account = ⟨entered new id now, new.password⟩

theorem isAccount_cons_of_ne {caller : Caller} {outcome : Outcome}
    (other : ∀ user, outcome ≠ .registered (.ok user)) {id : String} {account : Account} :
    IsAccount calls start ((caller, outcome) :: log) id account ↔
      IsAccount calls start log id account := by
  have outside : ∀ registrar user, (registrar, Outcome.registered (.ok user)) ∈
      (caller, outcome) :: log ↔ (registrar, Outcome.registered (.ok user)) ∈ log := by
    intro registrar user
    rw [List.mem_cons, or_iff_right]
    intro same
    exact other user (congrArg Prod.snd same).symm
  simp only [IsAccount, outside]

namespace Replay

theorem isConsistent (replay : Replay calls start log directory)
    (consistent : start.IsConsistent) : directory.IsConsistent := by
  induction replay with
  | start => exact consistent
  | perform replay caller induction => exact isConsistent_perform (calls caller) induction

theorem of_append {caller : Caller} {outcome : Outcome}
    (replay : Replay calls start (later ++ (caller, outcome) :: earlier) directory) :
    ∃ before, Replay calls start earlier before ∧
      outcome = ((calls caller).perform before).1 := by
  induction later generalizing directory with
  | nil =>
      cases replay with
      | perform replay caller => exact ⟨_, replay, rfl⟩
  | cons effect later induction =>
      cases replay with
      | perform replay caller => exact induction replay

theorem account?_eq_some_iff (replay : Replay calls start log directory)
    (fresh : HasFreshIds calls start) {id : String} {account : Account} :
    directory.account? id = some account ↔ IsAccount calls start log id account := by
  induction replay with
  | start => simp [IsAccount]
  | @perform log directory replay caller induction =>
      cases made : calls caller with
      | authenticate | find =>
          rw [isAccount_cons_of_ne (by simp [Call.perform])]
          exact induction
      | register new newId now =>
          rw [Call.perform_register]
          split
          · rw [isAccount_cons_of_ne (by simp)]
            exact induction
          · -- The new account hides none, since no other registration draws its id.
            rw [Directory.account?_insert]
            split
            · rename_i own
              subst own
              constructor
              · intro same
                cases same
                exact .inr ⟨caller, new, now, made, List.mem_cons_self, rfl⟩
              · rintro (atStart | ⟨registrar, other, otherNow, otherMade, -, rfl⟩)
                · rw [fresh.unused caller new id now made] at atStart
                  cases atStart
                · cases fresh.distinct _ _ _ _ _ _ _ made otherMade
                  rw [made] at otherMade
                  cases otherMade
                  rfl
            · rename_i different
              rw [induction]
              refine or_congr_right ?_
              constructor
              · rintro ⟨registrar, other, otherNow, otherMade, member, rfl⟩
                exact ⟨registrar, other, otherNow, otherMade, List.mem_cons_of_mem _ member, rfl⟩
              · rintro ⟨registrar, other, otherNow, otherMade, member, rfl⟩
                rcases List.mem_cons.mp member with same | member
                · cases congrArg Prod.fst same
                  rw [made] at otherMade
                  cases otherMade
                  exact absurd rfl different
                · exact ⟨registrar, other, otherNow, otherMade, member, rfl⟩

end Replay

def Call.address? : Call → Option String
  | .register new _ _ => some (Email.normalize new.email)
  | .authenticate _ _ | .find _ => none

theorem Call.exists_of_address? {call : Call} {email : String}
    (address : call.address? = some email) :
    ∃ new id now, call = .register new id now ∧ Email.normalize new.email = email := by
  cases call with
  | register new id now => exact ⟨new, id, now, rfl, Option.some.inj address⟩
  | authenticate | find => cases address

def Succeeds (log : List (Caller × Outcome)) (caller : Caller) : Prop :=
  ∃ user, (caller, .registered (.ok user)) ∈ log

namespace Replay

variable {caller : Caller} {outcome : Outcome} {email : String}

theorem registered (replay : Replay calls start log directory) {new : NewUser} {id : String}
    {now : Instant} (made : calls caller = .register new id now)
    (member : (caller, outcome) ∈ log) :
    outcome = .registered (.ok (entered new id now)) ∨
      outcome = .registered (.error .duplicateEmail) := by
  rcases List.append_of_mem member with ⟨later, earlier, rfl⟩
  rcases replay.of_append with ⟨before, -, rfl⟩
  rw [made, Call.perform_register]
  split
  · exact .inr rfl
  · exact .inl rfl

theorem isAccount_of_succeeds (replay : Replay calls start log directory)
    (address : (calls caller).address? = some email) (succeeds : Succeeds log caller) :
    ∃ new id now, calls caller = .register new id now ∧ Email.normalize new.email = email ∧
      IsAccount calls start log id ⟨entered new id now, new.password⟩ := by
  rcases Call.exists_of_address? address with ⟨new, id, now, made, spelled⟩
  rcases succeeds with ⟨user, member⟩
  rcases replay.registered made member with same | same
  · cases same
    exact ⟨new, id, now, made, spelled, .inr ⟨caller, new, now, made, member, rfl⟩⟩
  · cases same

/-- Of the registrations for a free address, one makes the account once any of them is settled. -/
theorem exists_succeeds (replay : Replay calls start log directory)
    (consistent : start.IsConsistent) (fresh : HasFreshIds calls start)
    (free : start.accountOf? email = none)
    (address : (calls caller).address? = some email) (member : (caller, outcome) ∈ log) :
    ∃ winner, (calls winner).address? = some email ∧ Succeeds log winner := by
  rcases List.append_of_mem member with ⟨later, earlier, rfl⟩
  rcases replay.of_append with ⟨before, past, performed⟩
  rcases Call.exists_of_address? address with ⟨new, id, now, made, spelled⟩
  rw [made, Call.perform_register, spelled] at performed
  cases taken : before.accountOf? email with
  | none =>
      rw [taken] at performed
      subst performed
      exact ⟨caller, address, entered new id now, by simp⟩
  | some account =>
      rcases Directory.mem_of_accountOf? taken with ⟨same, otherId, known⟩
      have sound := (past.isConsistent consistent).toIsSound
      have known := (past.account?_eq_some_iff fresh).mp (sound.account?_of_mem known)
      rcases known with atStart | ⟨winner, other, otherNow, otherMade, earlierMember, rfl⟩
      · exact absurd same
          (Directory.accountOf?_eq_none_iff.mp free _ _ (Directory.mem_of_account? atStart))
      · refine ⟨winner, ?_, entered other otherId otherNow, ?_⟩
        · rw [otherMade, Call.address?, ← same]
          rfl
        · exact List.mem_append_right _ (List.mem_cons_of_mem _ earlierMember)

theorem succeeds_unique (replay : Replay calls start log directory)
    (consistent : start.IsConsistent) (fresh : HasFreshIds calls start) {first second : Caller}
    (firstAddress : (calls first).address? = some email) (firstSucceeds : Succeeds log first)
    (secondAddress : (calls second).address? = some email)
    (secondSucceeds : Succeeds log second) : first = second := by
  rcases replay.isAccount_of_succeeds firstAddress firstSucceeds with
    ⟨firstNew, firstId, firstNow, firstMade, firstSpelled, firstKnown⟩
  rcases replay.isAccount_of_succeeds secondAddress secondSucceeds with
    ⟨secondNew, secondId, secondNow, secondMade, secondSpelled, secondKnown⟩
  have firstMember := Directory.mem_of_account? ((replay.account?_eq_some_iff fresh).mpr firstKnown)
  have secondMember :=
    Directory.mem_of_account? ((replay.account?_eq_some_iff fresh).mpr secondKnown)
  have same := (replay.isConsistent consistent).unshared _ _ _ _ firstMember secondMember
    (firstSpelled.trans secondSpelled.symm)
  subst same
  exact fresh.distinct _ _ _ _ _ _ _ firstMade secondMade

theorem not_succeeds_of_taken (replay : Replay calls start log directory)
    (consistent : start.IsConsistent) (fresh : HasFreshIds calls start)
    (taken : start.accountOf? email ≠ none) (address : (calls caller).address? = some email) :
    ¬ Succeeds log caller := by
  rintro ⟨user, member⟩
  rcases List.append_of_mem member with ⟨later, earlier, rfl⟩
  rcases replay.of_append with ⟨before, past, performed⟩
  rcases Call.exists_of_address? address with ⟨new, id, now, made, spelled⟩
  rcases Option.ne_none_iff_exists'.mp taken with ⟨account, found⟩
  rcases Directory.mem_of_accountOf? found with ⟨rfl, otherId, atStart⟩
  have kept : before.account? otherId = some account :=
    (past.account?_eq_some_iff fresh).mpr (.inl (consistent.account?_of_mem atStart))
  have stillTaken := (past.isConsistent consistent).accountOf?_of_mem
    (Directory.mem_of_account? kept)
  rw [made, Call.perform_register, spelled, stillTaken] at performed
  cases performed

theorem authenticated
    (replay : Replay calls start (later ++ (caller, outcome) :: earlier) directory)
    (consistent : start.IsConsistent) (fresh : HasFreshIds calls start) {email password : String}
    (made : calls caller = .authenticate email password) :
    ∃ result, outcome = .authenticated result ∧
      (∀ principal, result = .ok principal ↔
        ∃ id account, IsAccount calls start earlier id account ∧
          account.user.email = Email.normalize email ∧ account.password = password ∧
          principal = account.user.principal) ∧
      ∀ error, result = .error error → error = .invalidCredentials := by
  rcases replay.of_append with ⟨before, past, rfl⟩
  have known := past.isConsistent consistent
  refine ⟨before.authenticate email password, by rw [made, Call.perform], ?_, ?_⟩
  · intro principal
    constructor
    · intro succeeded
      rcases Directory.of_authenticate succeeded with ⟨account, found, right, rfl⟩
      rcases Directory.mem_of_accountOf? found with ⟨same, id, member⟩
      exact ⟨id, account, (past.account?_eq_some_iff fresh).mp (known.account?_of_mem member), same,
        right, rfl⟩
    · rintro ⟨id, account, isAccount, same, right, rfl⟩
      have member := Directory.mem_of_account? ((past.account?_eq_some_iff fresh).mpr isAccount)
      rw [known.authenticate_eq member same.symm, if_pos right]
  · intro error
    exact Directory.of_authenticate_error

theorem found (replay : Replay calls start (later ++ (caller, outcome) :: earlier) directory)
    (fresh : HasFreshIds calls start) {id : String} (made : calls caller = .find id) :
    ∃ result, outcome = .found result ∧
      (∀ user, result = .ok user ↔
        ∃ account, IsAccount calls start earlier id account ∧ user = account.user) ∧
      ∀ error, result = .error error → error = .notFound := by
  rcases replay.of_append with ⟨before, past, rfl⟩
  refine ⟨before.find id, by rw [made, Call.perform], ?_, ?_⟩
  · intro user
    simp only [← past.account?_eq_some_iff fresh, Directory.find]
    cases before.account? id with
    | none => simp
    | some account => simp [eq_comm]
  · intro error
    rw [Directory.find]
    cases before.account? id with
    | none => simp [eq_comm]
    | some account => simp

end Replay

end AuthServer.Interleaving
