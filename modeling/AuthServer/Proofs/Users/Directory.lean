import AuthServer.Proofs.Association
import AuthServer.Proofs.Users.Email
import AuthServer.Users.Directory

/-!
Directories in which every account stands under its own id and no two share an address, as they
come out of registrations. An account stays as it is until another one is made under its id.
-/

namespace AuthServer.Directory

structure IsSound (directory : Directory) : Prop where
  ids : ∀ id account, (id, account) ∈ directory.accounts → account.user.id = id
  distinct : (directory.accounts.map Prod.fst).Nodup

theorem isSound_empty : empty.IsSound where
  ids := by simp [empty]
  distinct := by simp [empty]

variable {directory : Directory} {id : String} {account : Account}

theorem mem_of_account? (found : directory.account? id = some account) :
    (id, account) ∈ directory.accounts :=
  mem_of_lookup found

theorem IsSound.account?_of_mem (sound : directory.IsSound)
    (member : (id, account) ∈ directory.accounts) : directory.account? id = some account :=
  (lookup_eq_some_iff_mem sound.distinct).mpr member

theorem IsSound.account?_of_accountOf? (sound : directory.IsSound) {email : String}
    (found : directory.accountOf? email = some account) :
    directory.account? account.user.id = some account := by
  rcases List.mem_map.mp (List.mem_of_find?_eq_some found) with ⟨⟨id, same⟩, member, rfl⟩
  rw [sound.ids id same member]
  exact sound.account?_of_mem member

theorem mem_insert {entry : String × Account} :
    entry ∈ (directory.insert id account).accounts ↔
      entry = (id, account) ∨ entry ∈ directory.accounts ∧ entry.1 ≠ id := by
  simp [insert]

theorem account?_insert (directory : Directory) (id : String) (account : Account)
    (other : String) :
    (directory.insert id account).account? other =
      if other = id then some account else directory.account? other := by
  rw [insert, account?, List.lookup_cons]
  by_cases same : other = id
  · simp [same]
  · simp only [beq_false_of_ne same, lookup_filter_ne same, if_neg same, account?]

theorem IsSound.insert (sound : directory.IsSound) (own : account.user.id = id) :
    (directory.insert id account).IsSound where
  ids := by
    intro otherId other member
    rcases mem_insert.mp member with same | ⟨member, -⟩
    · cases same
      exact own
    · exact sound.ids otherId other member
  distinct := by
    have kept : ((directory.accounts.filter (·.1 != id)).map Prod.fst).Nodup :=
      sound.distinct.sublist (List.filter_sublist.map Prod.fst)
    refine List.nodup_cons.mpr ⟨?_, kept⟩
    intro member
    rcases List.mem_map.mp member with ⟨entry, member, same⟩
    simp [same] at member

theorem register_eq_ok_iff {new : NewUser} {now : Instant} {user : User} {after : Directory} :
    directory.register new id now = .ok (user, after) ↔
      directory.accountOf? (Email.normalize new.email) = none ∧
        user = ⟨id, new.name, Email.normalize new.email, new.roles, .ofInstant now⟩ ∧
        after = directory.insert id ⟨user, new.password⟩ := by
  unfold register
  cases taken : directory.accountOf? (Email.normalize new.email) with
  | some other => simp [taken]
  | none =>
      simp only [taken, Except.ok.injEq, Prod.mk.injEq, true_and]
      constructor
      · rintro ⟨rfl, rfl⟩
        exact ⟨rfl, rfl⟩
      · rintro ⟨rfl, rfl⟩
        exact ⟨rfl, rfl⟩

theorem of_register {new : NewUser} {now : Instant} {user : User} {after : Directory}
    (registered : directory.register new id now = .ok (user, after)) :
    user = ⟨id, new.name, Email.normalize new.email, new.roles, .ofInstant now⟩ ∧
      after = directory.insert id ⟨user, new.password⟩ :=
  (register_eq_ok_iff.mp registered).2

theorem of_authenticate {email password : String} {principal : Principal}
    (known : directory.authenticate email password = .ok principal) :
    ∃ account, directory.accountOf? (Email.normalize email) = some account ∧
      account.password = password ∧ principal = account.user.principal := by
  unfold authenticate at known
  cases found : directory.accountOf? (Email.normalize email) with
  | none => simp [found] at known
  | some account =>
      simp only [found] at known
      split at known
      · cases known
        exact ⟨account, rfl, by assumption, rfl⟩
      · cases known

theorem of_authenticate_error {email password : String} {error : DirectoryError}
    (refused : directory.authenticate email password = .error error) :
    error = .invalidCredentials := by
  unfold authenticate at refused
  split at refused
  · split at refused
    · cases refused
    · exact (Except.error.inj refused).symm
  · exact (Except.error.inj refused).symm

/-! ## Addresses -/

theorem mem_of_accountOf? {email : String} (found : directory.accountOf? email = some account) :
    account.user.email = email ∧ ∃ id, (id, account) ∈ directory.accounts := by
  have same := List.find?_some found
  rcases List.mem_map.mp (List.mem_of_find?_eq_some found) with ⟨⟨id, other⟩, member, rfl⟩
  exact ⟨beq_iff_eq.mp same, id, member⟩

theorem accountOf?_eq_none_iff {email : String} :
    directory.accountOf? email = none ↔
      ∀ id account, (id, account) ∈ directory.accounts → account.user.email ≠ email := by
  simp [accountOf?]

/-- A directory as registrations make it: the addresses are in the stored spelling, and no two
accounts share one. -/
structure IsConsistent (directory : Directory) : Prop extends directory.IsSound where
  stored : ∀ id account, (id, account) ∈ directory.accounts → Email.IsStored account.user.email
  unshared : ∀ id account otherId other, (id, account) ∈ directory.accounts →
    (otherId, other) ∈ directory.accounts → account.user.email = other.user.email → id = otherId

theorem isConsistent_empty : empty.IsConsistent where
  toIsSound := isSound_empty
  stored := by simp [empty]
  unshared := by simp [empty]

namespace IsConsistent

theorem accountOf?_of_mem (consistent : directory.IsConsistent)
    (member : (id, account) ∈ directory.accounts) :
    directory.accountOf? account.user.email = some account := by
  cases found : directory.accountOf? account.user.email with
  | none => exact absurd rfl (accountOf?_eq_none_iff.mp found id account member)
  | some other =>
      rcases mem_of_accountOf? found with ⟨same, otherId, otherMember⟩
      cases consistent.unshared _ _ _ _ otherMember member same
      exact (consistent.account?_of_mem otherMember).symm.trans (consistent.account?_of_mem member)

theorem insert (consistent : directory.IsConsistent) (own : account.user.id = id)
    (stored : Email.IsStored account.user.email)
    (free : directory.accountOf? account.user.email = none) :
    (directory.insert id account).IsConsistent where
  toIsSound := consistent.toIsSound.insert own
  stored := by
    intro otherId other member
    rcases mem_insert.mp member with same | ⟨member, -⟩
    · cases same
      exact stored
    · exact consistent.stored otherId other member
  unshared := by
    have absent := accountOf?_eq_none_iff.mp free
    intro firstId first secondId second firstMember secondMember same
    rcases mem_insert.mp firstMember with isNew | ⟨firstMember, -⟩
    · rcases mem_insert.mp secondMember with isNewToo | ⟨secondMember, -⟩
      · cases isNew
        cases isNewToo
        rfl
      · cases isNew
        exact absurd same.symm (absent secondId second secondMember)
    · rcases mem_insert.mp secondMember with isNew | ⟨secondMember, -⟩
      · cases isNew
        exact absurd same (absent firstId first firstMember)
      · exact consistent.unshared _ _ _ _ firstMember secondMember same

theorem register (consistent : directory.IsConsistent) {new : NewUser} {now : Instant}
    {user : User} {after : Directory}
    (registered : directory.register new id now = .ok (user, after)) : after.IsConsistent := by
  rcases register_eq_ok_iff.mp registered with ⟨free, rfl, rfl⟩
  exact consistent.insert rfl (Email.isStored_normalize new.email) free

/-- An account lets in everyone who knows its password, under any spelling of its address. -/
theorem authenticate_eq (consistent : directory.IsConsistent)
    (member : (id, account) ∈ directory.accounts) {email : String}
    (same : Email.normalize email = account.user.email) (password : String) :
    directory.authenticate email password =
      if account.password = password then .ok account.user.principal
      else .error .invalidCredentials := by
  rw [authenticate, same, consistent.accountOf?_of_mem member]

end IsConsistent

inductive Reachable : Directory → Prop where
  | empty : Reachable empty
  | register {directory after : Directory} {new : NewUser} {id : String} {now : Instant}
      {user : User} (reachable : directory.Reachable)
      (registered : directory.register new id now = .ok (user, after)) : after.Reachable

theorem Reachable.isConsistent (reachable : directory.Reachable) : directory.IsConsistent := by
  induction reachable with
  | empty => exact isConsistent_empty
  | register reachable registered induction => exact induction.register registered

theorem IsSound.id_of_find (sound : directory.IsSound) {user : User}
    (found : directory.find id = .ok user) : user.id = id := by
  unfold find at found
  cases known : directory.account? id with
  | none => simp [known] at found
  | some account =>
      simp only [known, Except.ok.injEq] at found
      subst found
      exact sound.ids id account (mem_of_account? known)

theorem IsSound.find_eq (sound : directory.IsSound)
    (member : (id, account) ∈ directory.accounts) : directory.find id = .ok account.user := by
  rw [find, sound.account?_of_mem member]

end AuthServer.Directory
