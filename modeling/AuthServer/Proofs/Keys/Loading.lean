import AuthServer.Proofs.Association
import AuthServer.Proofs.Keys.Rotation

/-!
Keys are loaded one file after another until one is at fault. Which fault is reported depends on
the order of the files; whether there is one does not, and neither does anything that the loaded
keys are used for.
-/

namespace AuthServer

variable {pems others before : List (String × List UInt8)} {kid : String} {bytes : List UInt8}
variable {entry : KeyEntry} {error : KeyError}

/-! ## Files with keys -/

structure AreKeys (pems : List (String × List UInt8)) : Prop where
  read : ∀ kid bytes, (kid, bytes) ∈ pems → ∃ entry, KeyEntry.read kid bytes = .ok entry
  distinct : (pems.map Prod.fst).Nodup

/-- What is wrong with a file that comes after others. If it holds no key, nobody asks whether its
id is taken. -/
inductive IsFault (before : List (String × List UInt8)) (kid : String) (bytes : List UInt8) :
    KeyError → Prop
  | unreadable {error : KeyError} (failed : KeyEntry.read kid bytes = .error error) :
      IsFault before kid bytes error
  | repeated {entry : KeyEntry} (read : KeyEntry.read kid bytes = .ok entry)
      (taken : kid ∈ before.map Prod.fst) : IsFault before kid bytes (.duplicateKid kid)

def IsFirstFault (pems : List (String × List UInt8)) (error : KeyError) : Prop :=
  ∃ before kid bytes after, pems = before ++ (kid, bytes) :: after ∧ AreKeys before ∧
    IsFault before kid bytes error

namespace AreKeys

theorem perm (keys : AreKeys pems) (same : others.Perm pems) : AreKeys others where
  read kid bytes member := keys.read kid bytes (same.mem_iff.mp member)
  distinct := (same.map Prod.fst).nodup_iff.mpr keys.distinct

theorem perm_iff (same : others.Perm pems) : AreKeys others ↔ AreKeys pems :=
  ⟨fun keys => keys.perm same.symm, fun keys => keys.perm same⟩

end AreKeys

theorem areKeys_concat_iff : AreKeys (pems ++ [(kid, bytes)]) ↔
    AreKeys pems ∧ (∃ entry, KeyEntry.read kid bytes = .ok entry) ∧ kid ∉ pems.map Prod.fst := by
  have distinct : ((pems ++ [(kid, bytes)]).map Prod.fst).Nodup ↔
      kid ∉ pems.map Prod.fst ∧ (pems.map Prod.fst).Nodup := by
    rw [List.map_append, List.map_singleton, ← List.concat_eq_append, List.nodup_concat]
  constructor
  · rintro ⟨read, unrepeated⟩
    rcases distinct.mp unrepeated with ⟨free, rest⟩
    exact ⟨⟨fun other contents member => read other contents (List.mem_append_left _ member), rest⟩,
      read kid bytes (by simp), free⟩
  · rintro ⟨keys, read, free⟩
    refine ⟨fun other contents member => ?_, distinct.mpr ⟨free, keys.distinct⟩⟩
    rcases List.mem_append.mp member with member | isNew
    · exact keys.read other contents member
    · cases List.mem_singleton.mp isNew
      exact read

theorem IsFirstFault.append (faulty : IsFirstFault pems error)
    (more : List (String × List UInt8)) : IsFirstFault (pems ++ more) error := by
  rcases faulty with ⟨before, kid, bytes, after, split, keys, fault⟩
  exact ⟨before, kid, bytes, after ++ more, by rw [split, List.append_assoc]; rfl, keys, fault⟩

theorem IsFault.isFirstFault (fault : IsFault before kid bytes error) (keys : AreKeys before) :
    IsFirstFault (before ++ [(kid, bytes)]) error :=
  ⟨before, kid, bytes, [], rfl, keys, fault⟩

theorem areKeys_or_isFirstFault (pems : List (String × List UInt8)) :
    AreKeys pems ∨ ∃ error, IsFirstFault pems error := by
  -- A fault depends on the files before it, and so the last file is the one that is added.
  induction pems using List.reverseRecOn with
  | nil => exact .inl ⟨by simp, by simp⟩
  | append_singleton pems pem induction =>
      rcases pem with ⟨kid, bytes⟩
      rcases induction with keys | ⟨error, faulty⟩
      · cases read : KeyEntry.read kid bytes with
        | error error => exact .inr ⟨error, (IsFault.unreadable read).isFirstFault keys⟩
        | ok entry =>
            by_cases taken : kid ∈ pems.map Prod.fst
            · exact .inr ⟨_, (IsFault.repeated read taken).isFirstFault keys⟩
            · exact .inl (areKeys_concat_iff.mpr ⟨keys, ⟨entry, read⟩, taken⟩)
      · exact .inr ⟨error, faulty.append _⟩

/-! ## Rings -/

namespace KeyRing

variable {ring next first second : KeyRing}

theorem find?_eq_some_iff : ring.find? kid = some entry ↔ (kid, entry) ∈ ring.entries :=
  lookup_eq_some_iff_mem ring.distinct

theorem perm_kids (ring : KeyRing) : ring.kids.Perm (ring.entries.map Prod.fst) :=
  List.mergeSort_perm _ _

theorem pairwise_kids (ring : KeyRing) : ring.kids.Pairwise (· < ·) := by
  have ordered : ring.kids.Pairwise fun left right => decide (left ≤ right) = true :=
    List.pairwise_mergeSort (by simpa using fun _ _ _ => String.le_trans)
      (by simpa using String.le_total) _
  have distinct : ring.kids.Nodup := ring.perm_kids.nodup_iff.mpr ring.distinct
  refine (ordered.and distinct).imp fun ⟨before, different⟩ => String.not_le.mp fun after => ?_
  exact different (String.le_antisymm (of_decide_eq_true before) after)

variable (entry) in
theorem insert?_of_mem (taken : kid ∈ ring.entries.map Prod.fst) :
    ring.insert? kid entry = none :=
  dif_pos taken

variable (entry) in
theorem insert?_of_not_mem (free : kid ∉ ring.entries.map Prod.fst) :
    ∃ next, ring.insert? kid entry = some next ∧ next.entries = (kid, entry) :: ring.entries :=
  ⟨_, dif_neg free, rfl⟩

structure Alike (first second : KeyRing) : Prop where
  kids : first.kids = second.kids
  find? : ∀ kid, first.find? kid = second.find? kid

/-! ### What a ring holds -/

/-- A ring holds the keys of some files, each under its own id, and no others. -/
structure Holds (ring : KeyRing) (pems : List (String × List UInt8)) : Prop where
  kids : (ring.entries.map Prod.fst).Perm (pems.map Prod.fst)
  find?_iff : ∀ kid entry, ring.find? kid = some entry ↔
    ∃ bytes, (kid, bytes) ∈ pems ∧ KeyEntry.read kid bytes = .ok entry

namespace Holds

theorem empty : KeyRing.empty.Holds [] := ⟨.nil, by simp [KeyRing.empty, find?]⟩

theorem perm (holds : ring.Holds pems) (same : others.Perm pems) : ring.Holds others where
  kids := holds.kids.trans (same.map Prod.fst).symm
  find?_iff kid entry := by simp only [holds.find?_iff, same.mem_iff]

theorem insert (holds : ring.Holds pems) (read : KeyEntry.read kid bytes = .ok entry)
    (entries : next.entries = (kid, entry) :: ring.entries) :
    next.Holds (pems ++ [(kid, bytes)]) where
  kids := by
    rw [entries, List.map_append]
    exact (holds.kids.cons kid).trans (List.perm_append_singleton kid _).symm
  find?_iff other found := by
    have old := holds.find?_iff other found
    rw [find?_eq_some_iff] at old ⊢
    simp only [entries, List.mem_cons, old, List.mem_append, Prod.mk.injEq, List.not_mem_nil,
      or_false, or_and_right, exists_or]
    rw [or_comm]
    refine or_congr_right ⟨?_, ?_⟩
    · rintro ⟨rfl, rfl⟩
      exact ⟨bytes, ⟨rfl, rfl⟩, read⟩
    · rintro ⟨_, ⟨rfl, rfl⟩, readAgain⟩
      exact ⟨rfl, Except.ok.inj (readAgain.symm.trans read)⟩

theorem alike (holds : first.Holds pems) (other : second.Holds pems) : first.Alike second where
  kids := by
    have same : first.kids.Perm second.kids :=
      (first.perm_kids.trans holds.kids).trans (second.perm_kids.trans other.kids).symm
    exact same.eq_of_pairwise (fun _ _ _ _ below above => absurd below (String.lt_asymm above))
      first.pairwise_kids second.pairwise_kids
  find? kid :=
    Option.ext fun entry => (holds.find?_iff kid entry).trans (other.find?_iff kid entry).symm

theorem find?_of_not_mem (holds : ring.Holds pems) (absent : kid ∉ pems.map Prod.fst) :
    ring.find? kid = none := by
  cases found : ring.find? kid with
  | none => rfl
  | some entry =>
      rcases (holds.find?_iff kid entry).mp found with ⟨bytes, member, -⟩
      exact absurd (List.mem_map_of_mem member) absent

end Holds

/-! ### Adding keys -/

def add (ring : KeyRing) (kid : String) (bytes : List UInt8) : Except KeyError KeyRing :=
  match KeyEntry.read kid bytes with
  | .error error => .error error
  | .ok entry => (ring.insert? kid entry).elim (.error (.duplicateKid kid)) .ok

theorem addAll_cons (ring : KeyRing) (kid : String) (bytes : List UInt8)
    (rest : List (String × List UInt8)) :
    ring.addAll ((kid, bytes) :: rest) = (ring.add kid bytes >>= fun ring => ring.addAll rest) := by
  rw [addAll, add]
  cases KeyEntry.read kid bytes with
  | error error => rfl
  | ok entry =>
      cases inserted : ring.insert? kid entry with
      | none => simp [inserted]
      | some next => simp [inserted]

theorem addAll_append (ring : KeyRing) (front back : List (String × List UInt8)) :
    ring.addAll (front ++ back) = (ring.addAll front >>= fun ring => ring.addAll back) := by
  induction front generalizing ring with
  | nil => rfl
  | cons pem rest induction =>
      rcases pem with ⟨kid, bytes⟩
      rw [List.cons_append, addAll_cons, addAll_cons]
      cases ring.add kid bytes with
      | error error => rfl
      | ok next => exact induction next

theorem add_of_isFault (holds : ring.Holds before) (fault : IsFault before kid bytes error) :
    ring.add kid bytes = .error error := by
  cases fault with
  | unreadable failed => rw [add, failed]
  | repeated read taken =>
      rw [add, read]
      simp only [insert?_of_mem _ (holds.kids.mem_iff.mpr taken), Option.elim_none]

theorem add_of_free (holds : ring.Holds before) (read : KeyEntry.read kid bytes = .ok entry)
    (free : kid ∉ before.map Prod.fst) :
    ∃ next, ring.add kid bytes = .ok next ∧ next.Holds (before ++ [(kid, bytes)]) := by
  have unused : kid ∉ ring.entries.map Prod.fst := fun taken => free (holds.kids.mem_iff.mp taken)
  rcases insert?_of_not_mem entry unused with ⟨next, inserted, entries⟩
  refine ⟨next, ?_, holds.insert read entries⟩
  rw [add, read]
  simp only [inserted, Option.elim_some]

/-! ### Adding all keys -/

theorem exists_addAll (keys : AreKeys pems) :
    ∃ ring, empty.addAll pems = .ok ring ∧ ring.Holds pems := by
  induction pems using List.reverseRecOn with
  | nil => exact ⟨empty, rfl, .empty⟩
  | append_singleton pems pem induction =>
      rcases pem with ⟨kid, bytes⟩
      rcases areKeys_concat_iff.mp keys with ⟨keys, ⟨entry, read⟩, free⟩
      rcases induction keys with ⟨ring, added, holds⟩
      rcases add_of_free holds read free with ⟨next, addedToo, holdsToo⟩
      refine ⟨next, ?_, holdsToo⟩
      rw [addAll_append, added, ok_bind, addAll_cons, addedToo]
      rfl

theorem addAll_of_isFirstFault (faulty : IsFirstFault pems error) :
    empty.addAll pems = .error error := by
  rcases faulty with ⟨before, kid, bytes, after, rfl, keys, fault⟩
  rcases exists_addAll keys with ⟨ring, added, holds⟩
  -- Whatever comes after the fault is never read.
  rw [addAll_append, added, ok_bind, addAll_cons, add_of_isFault holds fault]
  rfl

end KeyRing

/-! ## Stores -/

inductive IsActiveFault (pems : List (String × List UInt8)) (kid : String) : KeyError → Prop
  | missing (absent : kid ∉ pems.map Prod.fst) : IsActiveFault pems kid (.activeMissing kid)
  | cannotSign {bytes : List UInt8} {entry : KeyEntry} (member : (kid, bytes) ∈ pems)
      (read : KeyEntry.read kid bytes = .ok entry) (without : entry.signing = none) :
      IsActiveFault pems kid (.activeNotSigning kid)

theorem AreKeys.signs_or_isActiveFault (keys : AreKeys pems) (kid : String) :
    (∃ bytes entry, (kid, bytes) ∈ pems ∧ KeyEntry.read kid bytes = .ok entry ∧
      entry.signing.isSome = true) ∨ ∃ error, IsActiveFault pems kid error := by
  by_cases absent : kid ∉ pems.map Prod.fst
  · exact .inr ⟨_, .missing absent⟩
  · rcases List.mem_map.mp (not_not.mp absent) with ⟨⟨_, bytes⟩, member, rfl⟩
    rcases keys.read _ bytes member with ⟨entry, read⟩
    cases signs : entry.signing with
    | none => exact .inr ⟨_, .cannotSign member read signs⟩
    | some key => exact .inl ⟨bytes, entry, member, read, Option.isSome_of_eq_some signs⟩

namespace KeyStore

variable {ring : KeyRing} {store next first second : KeyStore}

theorem ofRing_eq_activeMissing (missing : ring.find? kid = none) :
    ofRing ring kid = .error (.activeMissing kid) := by
  unfold ofRing
  split
  · rfl
  · rename_i entry found
    cases missing.symm.trans found

theorem ofRing_eq_activeNotSigning (found : ring.find? kid = some entry)
    (without : entry.signing = none) : ofRing ring kid = .error (.activeNotSigning kid) := by
  unfold ofRing
  split
  · rename_i missing
    cases missing.symm.trans found
  · rename_i other same
    cases same.symm.trans found
    rw [dif_neg (by simp [without])]

/-! ### Stores that no question tells apart -/

structure Alike (first second : KeyStore) : Prop where
  ring : first.ring.Alike second.ring
  activeKid : first.activeKid = second.activeKid

theorem endAlike_ofRing {first second : KeyRing} (alike : first.Alike second) (kid : String) :
    EndAlike Alike (ofRing first kid) (ofRing second kid) := by
  cases found : second.find? kid with
  | none =>
      rw [ofRing_eq_activeMissing found, ofRing_eq_activeMissing ((alike.find? kid).trans found)]
      exact .failed _
  | some entry =>
      have foundToo := (alike.find? kid).trans found
      cases signs : entry.signing with
      | none =>
          rw [ofRing_eq_activeNotSigning found signs, ofRing_eq_activeNotSigning foundToo signs]
          exact .failed _
      | some key =>
          have isSome : entry.signing.isSome = true := Option.isSome_of_eq_some signs
          rcases ofRing_of_find? foundToo isSome with ⟨store, chosen, ring, active⟩
          rcases ofRing_of_find? found isSome with ⟨other, chosenToo, ringToo, activeToo⟩
          rw [chosen, chosenToo]
          exact .done ⟨by rwa [ring, ringToo], active.trans activeToo.symm⟩

namespace Alike

variable (alike : first.Alike second)

include alike

theorem kids : first.kids = second.kids :=
  alike.ring.kids

theorem signing (kid : String) : first.signing kid = second.signing kid := by
  rw [KeyStore.signing, alike.ring.find?, KeyStore.signing]

theorem verifying (kid : String) : first.verifying kid = second.verifying kid := by
  rw [KeyStore.verifying, alike.ring.find?, KeyStore.verifying]

theorem withActive (kid : String) :
    EndAlike KeyStore.Alike (first.withActive kid) (second.withActive kid) :=
  endAlike_ofRing alike.ring kid

theorem authenticate (issuer : String) (lifetime : Span) (header : Option String)
    (now : Instant) :
    Authenticator.authenticate ⟨first, issuer, lifetime⟩ header now =
      Authenticator.authenticate ⟨second, issuer, lifetime⟩ header now := by
  simp only [Authenticator.authenticate, alike.verifying]

end Alike

/-! ### Stores from files -/

theorem ofPems_of_isFirstFault (faulty : IsFirstFault pems error) (activeKid : String) :
    ofPems pems activeKid = .error error := by
  rw [ofPems, KeyRing.addAll_of_isFirstFault faulty]

theorem ofPems_of_areKeys (keys : AreKeys pems) (activeKid : String) :
    ∃ ring : KeyRing, ring.Holds pems ∧ ofPems pems activeKid = ofRing ring activeKid := by
  rcases KeyRing.exists_addAll keys with ⟨ring, added, holds⟩
  exact ⟨ring, holds, by rw [ofPems, added]⟩

theorem of_ofPems {activeKid : String} (loaded : ofPems pems activeKid = .ok store) :
    AreKeys pems ∧ store.ring.Holds pems ∧ store.activeKid = activeKid := by
  rcases areKeys_or_isFirstFault pems with keys | ⟨error, faulty⟩
  · rcases ofPems_of_areKeys keys activeKid with ⟨ring, holds, chosen⟩
    rcases ofRing_eq_ok_iff.mp (chosen.symm.trans loaded) with ⟨rfl, active⟩
    exact ⟨keys, holds, active⟩
  · cases (ofPems_of_isFirstFault faulty activeKid).symm.trans loaded

theorem resolves_of_mem {activeKid : String} (loaded : ofPems pems activeKid = .ok store)
    (member : (kid, bytes) ∈ pems) :
    ∃ entry, KeyEntry.read kid bytes = .ok entry ∧ store.verifying kid = .ok entry.verifying ∧
      store.signing kid = entry.signing.elim (.error (.notFound kid)) .ok := by
  rcases of_ofPems loaded with ⟨keys, holds, -⟩
  rcases keys.read kid bytes member with ⟨entry, read⟩
  have found := (holds.find?_iff kid entry).mpr ⟨bytes, member, read⟩
  refine ⟨entry, read, by rw [verifying, found], ?_⟩
  rw [signing, found, Option.bind_some]
  cases entry.signing <;> rfl

theorem not_resolves_of_not_mem {activeKid : String} (loaded : ofPems pems activeKid = .ok store)
    (absent : kid ∉ pems.map Prod.fst) :
    store.verifying kid = .error (.notFound kid) ∧ store.signing kid = .error (.notFound kid) := by
  have missing := (of_ofPems loaded).2.1.find?_of_not_mem absent
  exact ⟨by rw [verifying, missing], by rw [signing, missing, Option.bind_none]⟩

theorem perm_kids_of_ofPems {activeKid : String} (loaded : ofPems pems activeKid = .ok store) :
    store.kids.Perm (pems.map Prod.fst) :=
  store.ring.perm_kids.trans (of_ofPems loaded).2.1.kids

theorem exists_ofPems_iff {activeKid : String} : (∃ store, ofPems pems activeKid = .ok store) ↔
    AreKeys pems ∧ ∃ bytes entry, (activeKid, bytes) ∈ pems ∧
      KeyEntry.read activeKid bytes = .ok entry ∧ entry.signing.isSome = true := by
  constructor
  · rintro ⟨store, loaded⟩
    rcases of_ofPems loaded with ⟨keys, holds, rfl⟩
    rcases canSign_iff.mp store.active_signs with ⟨entry, found, signs⟩
    rcases (holds.find?_iff _ entry).mp found with ⟨bytes, member, read⟩
    exact ⟨keys, bytes, entry, member, read, signs⟩
  · rintro ⟨keys, bytes, entry, member, read, signs⟩
    rcases ofPems_of_areKeys keys activeKid with ⟨ring, holds, chosen⟩
    have found := (holds.find?_iff activeKid entry).mpr ⟨bytes, member, read⟩
    rcases ofRing_of_find? found signs with ⟨store, succeeds, -, -⟩
    exact ⟨store, chosen.trans succeeds⟩

theorem ofPems_of_isActiveFault (keys : AreKeys pems) {activeKid : String}
    (fault : IsActiveFault pems activeKid error) : ofPems pems activeKid = .error error := by
  rcases ofPems_of_areKeys keys activeKid with ⟨ring, holds, chosen⟩
  rw [chosen]
  cases fault with
  | missing absent => exact ofRing_eq_activeMissing (holds.find?_of_not_mem absent)
  | cannotSign member read without =>
      exact ofRing_eq_activeNotSigning ((holds.find?_iff _ _).mpr ⟨_, member, read⟩) without

theorem ofPems_eq_error_iff {activeKid : String} : ofPems pems activeKid = .error error ↔
    IsFirstFault pems error ∨ AreKeys pems ∧ IsActiveFault pems activeKid error := by
  constructor
  · intro failed
    rcases areKeys_or_isFirstFault pems with keys | ⟨other, faulty⟩
    · rcases keys.signs_or_isActiveFault activeKid with signs | ⟨other, fault⟩
      · rcases exists_ofPems_iff.mpr ⟨keys, signs⟩ with ⟨store, loaded⟩
        cases failed.symm.trans loaded
      · cases failed.symm.trans (ofPems_of_isActiveFault keys fault)
        exact .inr ⟨keys, fault⟩
    · cases failed.symm.trans (ofPems_of_isFirstFault faulty activeKid)
      exact .inl faulty
  · rintro (faulty | ⟨keys, fault⟩)
    · exact ofPems_of_isFirstFault faulty activeKid
    · exact ofPems_of_isActiveFault keys fault

theorem alike_of_perm {activeKid : String} (loaded : ofPems pems activeKid = .ok first)
    (same : others.Perm pems) (loadedToo : ofPems others activeKid = .ok second) :
    second.Alike first := by
  rcases of_ofPems loaded with ⟨-, holds, active⟩
  rcases of_ofPems loadedToo with ⟨-, holdsToo, activeToo⟩
  exact ⟨holdsToo.alike (holds.perm same), activeToo.trans active.symm⟩

theorem exists_ofPems_perm {activeKid : String} (same : others.Perm pems) :
    (∃ store, ofPems others activeKid = .ok store) ↔
      ∃ store, ofPems pems activeKid = .ok store := by
  simp only [exists_ofPems_iff, same.mem_iff, AreKeys.perm_iff same]

/-! ## Main result -/

/-- Files are loaded if and only if each holds a key under an id of its own and the active one can
sign. What is reported otherwise is the fault of the first file that has one, or, if none has, that
of the active key. The store that comes of it lists the ids of the files and finds under each the
key of its own file. The order of the files decides on the fault that is reported, but neither on
whether there is one nor on what the store does. -/
theorem loading_exact (pems : List (String × List UInt8)) (activeKid : String) :
    ((∃ store, ofPems pems activeKid = .ok store) ↔
      AreKeys pems ∧ ∃ bytes entry, (activeKid, bytes) ∈ pems ∧
        KeyEntry.read activeKid bytes = .ok entry ∧ entry.signing.isSome = true) ∧
    (∀ error, ofPems pems activeKid = .error error ↔
      IsFirstFault pems error ∨ AreKeys pems ∧ IsActiveFault pems activeKid error) ∧
    (∀ store, ofPems pems activeKid = .ok store →
      store.activeKid = activeKid ∧ store.kids.Perm (pems.map Prod.fst) ∧
      store.kids.Pairwise (· < ·) ∧
      (∀ kid bytes, (kid, bytes) ∈ pems → ∃ entry, KeyEntry.read kid bytes = .ok entry ∧
        store.verifying kid = .ok entry.verifying ∧
        store.signing kid = entry.signing.elim (.error (.notFound kid)) .ok) ∧
      ∀ kid, kid ∉ pems.map Prod.fst → store.verifying kid = .error (.notFound kid) ∧
        store.signing kid = .error (.notFound kid)) ∧
    ∀ others, others.Perm pems →
      ((∃ store, ofPems others activeKid = .ok store) ↔
        ∃ store, ofPems pems activeKid = .ok store) ∧
      ∀ store other, ofPems pems activeKid = .ok store → ofPems others activeKid = .ok other →
        other.kids = store.kids ∧
        (∀ kid, other.signing kid = store.signing kid) ∧
        (∀ kid, other.verifying kid = store.verifying kid) ∧
        (∀ kid, EndAlike Alike (other.withActive kid) (store.withActive kid)) ∧
        ∀ issuer lifetime header now,
          Authenticator.authenticate ⟨other, issuer, lifetime⟩ header now =
            Authenticator.authenticate ⟨store, issuer, lifetime⟩ header now := by
  refine ⟨exists_ofPems_iff, fun error => ofPems_eq_error_iff, fun store loaded => ?_,
    fun others same => ⟨exists_ofPems_perm same, fun store other loaded loadedToo => ?_⟩⟩
  · exact ⟨activeKid_of_ofPems loaded, perm_kids_of_ofPems loaded, store.ring.pairwise_kids,
      fun kid bytes member => resolves_of_mem loaded member,
      fun kid absent => not_resolves_of_not_mem loaded absent⟩
  · have alike := alike_of_perm loaded same loadedToo
    exact ⟨alike.kids, alike.signing, alike.verifying, alike.withActive, alike.authenticate⟩

theorem loading_exact_sample :
    ∃ store other, ofPems samplePems "k" = .ok store ∧
      ofPems samplePems.reverse "k" = .ok other ∧ other.kids = store.kids ∧
      ∀ kid, other.verifying kid = store.verifying kid := by
  rcases ofPems_pair (show "l" ≠ "k" by decide) KeyEntry.read_mersenneForm rfl with
    ⟨store, loaded, -, -⟩
  have loads : ofPems samplePems "k" = .ok store := loaded
  rcases loading_exact samplePems "k" with ⟨-, -, -, orderless⟩
  rcases orderless samplePems.reverse (List.reverse_perm _) with ⟨succeeds, alike⟩
  rcases succeeds.mpr ⟨store, loads⟩ with ⟨other, loadsToo⟩
  rcases alike store other loads loadsToo with ⟨kids, -, verifying, -⟩
  exact ⟨store, other, loads, loadsToo, kids, verifying⟩

end KeyStore

end AuthServer
