import AuthServer.Proofs.Users.Interleaving

/-!
One step of a call among others. What a call knows in its phase stays true as long as the lock is
kept, and a step that settles an outcome does to the store what the call would do to the directory
if it were made alone.
-/

namespace AuthServer.Interleaving

variable {Hash : Type} {hasher : Hasher Hash} {store after : Store Hash} {directory : Directory}

/-! ## The store and the directory -/

theorem Represents.account_of_entry (represents : Represents hasher store directory) {id : String}
    {entry : StoredUser Hash} (present : store id = some entry) :
    ∃ account, directory.account? id = some account ∧ Stands hasher entry account := by
  have related := represents id
  rw [present] at related
  generalize directory.account? id = found at related ⊢
  cases related with
  | some stands => exact ⟨_, rfl, stands⟩

theorem Represents.entry_of_account (represents : Represents hasher store directory) {id : String}
    {account : Account} (known : directory.account? id = some account) :
    ∃ entry, store id = some entry ∧ Stands hasher entry account := by
  have related := represents id
  rw [known] at related
  generalize store id = found at related ⊢
  cases related with
  | some stands => exact ⟨_, rfl, stands⟩

theorem Represents.account?_eq_none_iff (represents : Represents hasher store directory)
    {id : String} : directory.account? id = none ↔ store id = none := by
  have related := represents id
  generalize directory.account? id = account at related ⊢
  generalize store id = entry at related ⊢
  cases related <;> simp

theorem Represents.isTaken_iff (represents : Represents hasher store directory)
    (sound : directory.IsSound) {email : String} :
    store.IsTaken email ↔ directory.accountOf? email ≠ none := by
  rw [Ne, Directory.accountOf?_eq_none_iff]
  push Not
  constructor
  · rintro ⟨id, entry, present, same⟩
    rcases represents.account_of_entry present with ⟨account, known, stands⟩
    exact ⟨id, account, Directory.mem_of_account? known, stands.user ▸ same⟩
  · rintro ⟨id, account, member, same⟩
    rcases represents.entry_of_account (sound.account?_of_mem member) with ⟨entry, present, stands⟩
    exact ⟨id, entry, present, stands.user ▸ same⟩

theorem Represents.insert (represents : Represents hasher store directory) (id : String)
    {entry : StoredUser Hash} {account : Account} (stands : Stands hasher entry account) :
    Represents hasher (Function.update store id (some entry)) (directory.insert id account) := by
  intro other
  rw [Directory.account?_insert]
  by_cases same : other = id
  · subst same
    rw [Function.update_self, if_pos rfl]
    exact .some stands
  · rw [Function.update_of_ne same, if_neg same]
    exact represents other

theorem isConsistent_perform (call : Call) (consistent : directory.IsConsistent) :
    (call.perform directory).2.IsConsistent := by
  cases call with
  | register new id now =>
      rw [Call.perform]
      cases registered : directory.register new id now with
      | ok result => exact consistent.register registered
      | error error => exact consistent
  | authenticate email password => exact consistent
  | find id => exact consistent

/-! ## What a call knows -/

/-- What is true of the store and of the hashes as long as a call is in a phase. -/
inductive Knows (hasher : Hasher Hash) (store : Store Hash) : Call → Phase Hash → Prop where
  | called {call : Call} : Knows hasher store call .called
  | hashed {new : NewUser} {id : String} {now : Instant} {hash : Hash}
      (verifies : ∀ password, hasher.verify password hash = true ↔ password = new.password) :
      Knows hasher store (.register new id now) (.hashed hash)
  | writing {new : NewUser} {id : String} {now : Instant} {hash : Hash}
      (verifies : ∀ password, hasher.verify password hash = true ↔ password = new.password) :
      Knows hasher store (.register new id now) (.writing hash)
  | accepted {new : NewUser} {id : String} {now : Instant} {hash : Hash}
      (verifies : ∀ password, hasher.verify password hash = true ↔ password = new.password)
      (free : ¬ store.IsTaken (Email.normalize new.email)) :
      Knows hasher store (.register new id now) (.accepted hash)
  | readingForLogin {email password : String} :
      Knows hasher store (.authenticate email password) .reading
  | comparing {email password : String} {id : String} {entry : StoredUser Hash}
      (present : store id = some entry) (same : entry.user.email = Email.normalize email) :
      Knows hasher store (.authenticate email password) (.comparing entry)
  | readingForFind {id : String} : Knows hasher store (.find id) .reading
  | leaving {call : Call} {access : Access} {outcome : Outcome} :
      Knows hasher store call (.leaving access outcome)
  | returned {call : Call} {outcome : Outcome} : Knows hasher store call (.returned outcome)

variable {call : Call} {phase next : Phase Hash} {effect : Option Outcome}

theorem Knows.of_access (knows : Knows hasher store call phase) (outside : phase.access = none) :
    Knows hasher after call phase := by
  cases knows with
  | called => exact .called
  | hashed verifies => exact .hashed verifies
  | leaving => exact .leaving
  | returned => exact .returned
  | writing | accepted | readingForLogin | comparing | readingForFind => cases outside

namespace Move

theorem knows (faithful : hasher.IsFaithful) (move : Move hasher store call phase effect next after)
    (knows : Knows hasher store call phase) : Knows hasher after call next := by
  cases move with
  | hash salt hashed => exact .hashed (faithful.verifies hashed)
  | write => cases knows with | hashed verifies => exact .writing verifies
  | accept free => cases knows with | writing verifies => exact .accepted verifies free
  | pick id present same => exact .comparing present same
  | readForLogin => exact .readingForLogin
  | readForFind => exact .readingForFind
  | duplicate | insert | unknown | verified | refused | found | absent => exact .leaving
  | unhashed | leave => exact .returned

theorem store_eq (move : Move hasher store call phase effect next after)
    (other : phase.access ≠ some .exclusive) : after = store := by
  cases move with
  | insert => exact absurd rfl other
  | _ => rfl

theorem store_eq_or_registered (move : Move hasher store call phase effect next after) :
    after = store ∨ ∃ user, effect = some (.registered (.ok user)) := by
  cases move with
  | insert => exact .inr ⟨_, rfl⟩
  | _ => exact .inl rfl

theorem access_eq_or_none (move : Move hasher store call phase effect next after)
    (inside : phase.access ≠ none) : next.access = phase.access ∨ next.access = none := by
  cases move <;> simp_all [Phase.access]

theorem outcome?_eq (move : Move hasher store call phase effect next after) :
    next.outcome? = phase.outcome?.or effect := by
  cases move <;> rfl

theorem outcome?_eq_none (move : Move hasher store call phase effect next after)
    (settles : effect ≠ none) : phase.outcome? = none := by
  cases move with
  | leave => exact absurd rfl settles
  | _ => rfl

theorem rank_lt (move : Move hasher store call phase effect next after) :
    next.rank < phase.rank := by
  cases move <;> simp [Phase.rank]

/-- A step that settles an outcome does what the call would do alone, and any other step does not
change the store. -/
theorem simulates (faithful : hasher.IsFaithful)
    (move : Move hasher store call phase effect next after)
    (knows : Knows hasher store call phase) (consistent : directory.IsConsistent)
    (represents : Represents hasher store directory) :
    match effect with
    | none => after = store
    | some outcome =>
        (call.perform directory).1 = outcome ∧
          Represents hasher after (call.perform directory).2 := by
  have free_iff : ∀ {email}, ¬ store.IsTaken email ↔ directory.accountOf? email = none := by
    intro email
    rw [represents.isTaken_iff consistent.toIsSound, not_not]
  cases move with
  | hash | write | accept | readForLogin | pick | readForFind | leave => rfl
  | unhashed salt failed =>
      rcases faithful.total salt _ with ⟨hash, hashed⟩
      rw [failed] at hashed
      cases hashed
  | @duplicate new id now hash taken =>
      have known := (represents.isTaken_iff consistent.toIsSound).mp taken
      have refused : directory.register new id now = .error .duplicateEmail := by
        rw [Directory.register]
        split
        · rfl
        · contradiction
      simp only [Call.perform, refused]
      exact ⟨trivial, represents⟩
  | @insert new id now hash =>
      cases knows with
      | accepted verifies free =>
          have made : directory.register new id now = .ok (entered new id now, _) :=
            Directory.register_eq_ok_iff.mpr ⟨free_iff.mp free, rfl, rfl⟩
          simp only [Call.perform, made]
          exact ⟨trivial, represents.insert id ⟨rfl, verifies⟩⟩
  | unknown free =>
      simp only [Call.perform, Directory.authenticate, free_iff.mp free]
      exact ⟨trivial, represents⟩
  | verified verifies =>
      cases knows with
      | comparing present same =>
          rcases represents.account_of_entry present with ⟨account, known, stands⟩
          have member := Directory.mem_of_account? known
          have spelled := stands.user ▸ same
          have right := (stands.verifies _).mp verifies
          refine ⟨?_, represents⟩
          rw [Call.perform, consistent.authenticate_eq member spelled.symm, if_pos right.symm,
            stands.user]
  | refused differs =>
      cases knows with
      | comparing present same =>
          rcases represents.account_of_entry present with ⟨account, known, stands⟩
          have member := Directory.mem_of_account? known
          have spelled := stands.user ▸ same
          refine ⟨?_, represents⟩
          rw [Call.perform, consistent.authenticate_eq member spelled.symm, if_neg]
          intro right
          rw [(stands.verifies _).mpr right.symm] at differs
          cases differs
  | found present =>
      rcases represents.account_of_entry present with ⟨account, known, stands⟩
      refine ⟨?_, represents⟩
      simp only [Call.perform, Directory.find, known, stands.user]
  | absent missing =>
      refine ⟨?_, represents⟩
      simp only [Call.perform, Directory.find, represents.account?_eq_none_iff.mpr missing]

theorem exists_of_knows (faithful : hasher.IsFaithful) (knows : Knows hasher store call phase)
    (unfinished : ∀ outcome, phase ≠ .returned outcome) :
    ∃ effect next after, Move hasher store call phase effect next after := by
  cases knows with
  | called =>
      cases call with
      | register new id now =>
          rcases faithful.total "" new.password with ⟨hash, hashed⟩
          exact ⟨_, _, _, .hash "" hashed⟩
      | authenticate email password => exact ⟨_, _, _, .readForLogin⟩
      | find id => exact ⟨_, _, _, .readForFind⟩
  | hashed => exact ⟨_, _, _, .write⟩
  | @writing new id now hash verifies =>
      by_cases taken : store.IsTaken (Email.normalize new.email)
      · exact ⟨_, _, _, .duplicate taken⟩
      · exact ⟨_, _, _, .accept taken⟩
  | accepted => exact ⟨_, _, _, .insert⟩
  | @readingForLogin email password =>
      by_cases taken : store.IsTaken (Email.normalize email)
      · rcases taken with ⟨id, entry, present, same⟩
        exact ⟨_, _, _, .pick id present same⟩
      · exact ⟨_, _, _, .unknown taken⟩
  | @comparing email password id entry present same =>
      cases verifies : hasher.verify password entry.hash with
      | true => exact ⟨_, _, _, .verified verifies⟩
      | false => exact ⟨_, _, _, .refused verifies⟩
  | @readingForFind id =>
      cases present : store id with
      | some entry => exact ⟨_, _, _, .found present⟩
      | none => exact ⟨_, _, _, .absent present⟩
  | leaving => exact ⟨_, _, _, .leave⟩
  | returned => exact absurd rfl (unfinished _)

end Move

end AuthServer.Interleaving
