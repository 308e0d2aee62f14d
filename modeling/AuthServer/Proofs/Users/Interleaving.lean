import AuthServer.Proofs.Users.Directory

/-!
The user directory under calls that overlap. The accounts are shared behind a lock that admits one
writer or many readers. A registration hashes its password before it takes the lock, then looks for
the address and puts the account down; whoever authenticates or asks for an account only reads.
Between any two steps of a call the others may go on. What a call still has to do is its phase, and
who holds the lock can be read off the phases.

Hashing is a parameter. The invariant of a run says which calls of `Directory`, made one at a time,
have come to the same accounts and the same answers.
-/

namespace AuthServer.Interleaving

/-! ## The steps of a call -/

/-- Hashing of passwords. A hash carries its own salt. -/
structure Hasher (Hash : Type) where
  hash : (salt password : String) → Except String Hash
  verify : (password : String) → Hash → Bool

structure StoredUser (Hash : Type) where
  user : User
  hash : Hash

abbrev Store (Hash : Type) := String → Option (StoredUser Hash)

variable {Hash : Type}

def Store.IsTaken (store : Store Hash) (email : String) : Prop :=
  ∃ id entry, store id = some entry ∧ entry.user.email = email

inductive Call where
  | register (new : NewUser) (id : String) (now : Instant)
  | authenticate (email password : String)
  | find (id : String)

inductive Outcome where
  | registered (result : Except DirectoryError User)
  | authenticated (result : Except DirectoryError Principal)
  | found (result : Except DirectoryError User)

inductive Access where
  | shared
  | exclusive
deriving DecidableEq

/-- How far a call has come. The phases from `writing` to `leaving` hold the lock. -/
inductive Phase (Hash : Type) where
  | called
  | hashed (hash : Hash)
  | writing (hash : Hash)
  | accepted (hash : Hash)
  | reading
  | comparing (entry : StoredUser Hash)
  | leaving (access : Access) (outcome : Outcome)
  | returned (outcome : Outcome)

namespace Phase

def access : Phase Hash → Option Access
  | called | hashed _ | returned _ => none
  | writing _ | accepted _ => some .exclusive
  | reading | comparing _ => some .shared
  | leaving access _ => some access

def outcome? : Phase Hash → Option Outcome
  | leaving _ outcome | returned outcome => some outcome
  | _ => none

def rank : Phase Hash → Nat
  | called => 5
  | hashed _ => 4
  | writing _ | reading => 3
  | accepted _ | comparing _ => 2
  | leaving _ _ => 1
  | returned _ => 0

end Phase

def entered (new : NewUser) (id : String) (now : Instant) : User :=
  ⟨id, new.name, Email.normalize new.email, new.roles, .ofInstant now⟩

/-- One step of a call: the store and the phase that it finds, the outcome if the step settles it,
and the phase and the store that it leaves. -/
inductive Move (hasher : Hasher Hash) (store : Store Hash) :
    Call → Phase Hash → Option Outcome → Phase Hash → Store Hash → Prop where
  | hash {new : NewUser} {id : String} {now : Instant} (salt : String) {hash : Hash}
      (hashed : hasher.hash salt new.password = .ok hash) :
      Move hasher store (.register new id now) .called none (.hashed hash) store
  | unhashed {new : NewUser} {id : String} {now : Instant} (salt : String) {reason : String}
      (failed : hasher.hash salt new.password = .error reason) :
      Move hasher store (.register new id now) .called
        (some (.registered (.error (.unavailable ("password hash: " ++ reason)))))
        (.returned (.registered (.error (.unavailable ("password hash: " ++ reason))))) store
  | write {new : NewUser} {id : String} {now : Instant} {hash : Hash} :
      Move hasher store (.register new id now) (.hashed hash) none (.writing hash) store
  | duplicate {new : NewUser} {id : String} {now : Instant} {hash : Hash}
      (taken : store.IsTaken (Email.normalize new.email)) :
      Move hasher store (.register new id now) (.writing hash)
        (some (.registered (.error .duplicateEmail)))
        (.leaving .exclusive (.registered (.error .duplicateEmail))) store
  | accept {new : NewUser} {id : String} {now : Instant} {hash : Hash}
      (free : ¬ store.IsTaken (Email.normalize new.email)) :
      Move hasher store (.register new id now) (.writing hash) none (.accepted hash) store
  | insert {new : NewUser} {id : String} {now : Instant} {hash : Hash} :
      Move hasher store (.register new id now) (.accepted hash)
        (some (.registered (.ok (entered new id now))))
        (.leaving .exclusive (.registered (.ok (entered new id now))))
        (Function.update store id (some ⟨entered new id now, hash⟩))
  | readForLogin {email password : String} :
      Move hasher store (.authenticate email password) .called none .reading store
  | unknown {email password : String} (free : ¬ store.IsTaken (Email.normalize email)) :
      Move hasher store (.authenticate email password) .reading
        (some (.authenticated (.error .invalidCredentials)))
        (.leaving .shared (.authenticated (.error .invalidCredentials))) store
  | pick {email password : String} (id : String) {entry : StoredUser Hash}
      (present : store id = some entry) (same : entry.user.email = Email.normalize email) :
      Move hasher store (.authenticate email password) .reading none (.comparing entry) store
  | verified {email password : String} {entry : StoredUser Hash}
      (verifies : hasher.verify password entry.hash = true) :
      Move hasher store (.authenticate email password) (.comparing entry)
        (some (.authenticated (.ok entry.user.principal)))
        (.leaving .shared (.authenticated (.ok entry.user.principal))) store
  | refused {email password : String} {entry : StoredUser Hash}
      (differs : hasher.verify password entry.hash = false) :
      Move hasher store (.authenticate email password) (.comparing entry)
        (some (.authenticated (.error .invalidCredentials)))
        (.leaving .shared (.authenticated (.error .invalidCredentials))) store
  | readForFind {id : String} :
      Move hasher store (.find id) .called none .reading store
  | found {id : String} {entry : StoredUser Hash} (present : store id = some entry) :
      Move hasher store (.find id) .reading (some (.found (.ok entry.user)))
        (.leaving .shared (.found (.ok entry.user))) store
  | absent {id : String} (missing : store id = none) :
      Move hasher store (.find id) .reading (some (.found (.error .notFound)))
        (.leaving .shared (.found (.error .notFound))) store
  | leave {call : Call} {access : Access} {outcome : Outcome} :
      Move hasher store call (.leaving access outcome) none (.returned outcome) store

/-! ## Calls that overlap -/

def Compatible (mine theirs : Option Access) : Prop :=
  (mine = some .exclusive → theirs = none) ∧ (theirs = some .exclusive → mine = none)

structure System (Caller Hash : Type) where
  store : Store Hash
  phases : Caller → Phase Hash

variable {Caller : Type} [DecidableEq Caller]

namespace System

def advance (system : System Caller Hash) (caller : Caller) (phase : Phase Hash)
    (store : Store Hash) : System Caller Hash :=
  ⟨store, Function.update system.phases caller phase⟩

variable {system : System Caller Hash} {caller other : Caller} {phase : Phase Hash}
  {store : Store Hash}

@[simp] theorem advance_store : (system.advance caller phase store).store = store := rfl

@[simp] theorem advance_phases_self :
    (system.advance caller phase store).phases caller = phase :=
  Function.update_self ..

@[simp] theorem advance_phases_of_ne (different : other ≠ caller) :
    (system.advance caller phase store).phases other = system.phases other :=
  Function.update_of_ne different ..

end System

/-- One call makes a step. It waits for the others if the step takes the lock. -/
inductive Step (hasher : Hasher Hash) (calls : Caller → Call) (system : System Caller Hash) :
    Option (Caller × Outcome) → System Caller Hash → Prop where
  | move (caller : Caller) {effect : Option Outcome} {phase : Phase Hash} {store : Store Hash}
      (move : Move hasher system.store (calls caller) (system.phases caller) effect phase store)
      (waits : (system.phases caller).access = none →
        ∀ other, other ≠ caller → Compatible phase.access (system.phases other).access) :
      Step hasher calls system (effect.map (caller, ·)) (system.advance caller phase store)

/-- The interleavings of some calls, with the outcomes in the order in which they were settled. The
latest comes first. -/
inductive Run (hasher : Hasher Hash) (calls : Caller → Call) (store : Store Hash) :
    List (Caller × Outcome) → System Caller Hash → Prop where
  | start : Run hasher calls store [] ⟨store, fun _ => .called⟩
  | step {log : List (Caller × Outcome)} {system next : System Caller Hash}
      {effect : Option (Caller × Outcome)} (run : Run hasher calls store log system)
      (step : Step hasher calls system effect next) :
      Run hasher calls store (effect.toList ++ log) next

/-! ## Calls one at a time -/

def Call.perform (call : Call) (directory : Directory) : Outcome × Directory :=
  match call with
  | .register new id now =>
      match directory.register new id now with
      | .ok (user, after) => (.registered (.ok user), after)
      | .error error => (.registered (.error error), directory)
  | .authenticate email password =>
      (.authenticated (directory.authenticate email password), directory)
  | .find id => (.found (directory.find id), directory)

/-- The directory that calls lead to when they are made one after another, with the outcomes. -/
inductive Replay (calls : Caller → Call) (start : Directory) :
    List (Caller × Outcome) → Directory → Prop where
  | start : Replay calls start [] start
  | perform {log : List (Caller × Outcome)} {directory : Directory}
      (replay : Replay calls start log directory) (caller : Caller) :
      Replay calls start ((caller, ((calls caller).perform directory).1) :: log)
        ((calls caller).perform directory).2

/-- An entry of the store stands for an account: it is of the same user, and its hash verifies the
password of the account and no other. -/
structure Stands (hasher : Hasher Hash) (entry : StoredUser Hash) (account : Account) : Prop where
  user : entry.user = account.user
  verifies : ∀ password, hasher.verify password entry.hash = true ↔ password = account.password

def Represents (hasher : Hasher Hash) (store : Store Hash) (directory : Directory) : Prop :=
  ∀ id, Option.Rel (Stands hasher) (store id) (directory.account? id)

/-- Every password can be hashed, and its hashes verify that password only. -/
structure Hasher.IsFaithful (hasher : Hasher Hash) : Prop where
  total : ∀ salt password, ∃ hash, hasher.hash salt password = .ok hash
  verifies : ∀ {salt password hash}, hasher.hash salt password = .ok hash →
    ∀ other, hasher.verify other hash = true ↔ other = password

structure HasFreshIds (calls : Caller → Call) (start : Directory) : Prop where
  unused : ∀ caller new id now, calls caller = .register new id now → start.account? id = none
  distinct : ∀ first second new id now otherNew otherNow,
    calls first = .register new id now → calls second = .register otherNew id otherNow →
    first = second

end AuthServer.Interleaving
