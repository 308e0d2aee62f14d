import AuthServer.Proofs.Keys.Folder
import AuthServer.Proofs.Token.Verification

/-!
Rotation puts another loaded key into use. However often it is tried, and whether or not it
succeeds, nothing but the key that signs new tokens changes: the tokens of every earlier key stay as
good as they were.
-/

namespace AuthServer

namespace KeyStore

def canSign (store : KeyStore) (kid : String) : Bool :=
  ((store.ring.find? kid).bind KeyEntry.signing).isSome

variable {store next : KeyStore} {kid : String}

theorem canSign_iff : store.canSign kid = true ↔
    ∃ entry, store.ring.find? kid = some entry ∧ entry.signing.isSome = true := by
  rw [canSign, Option.isSome_bind, Option.any_eq_true]

theorem ofRing_eq_ok_iff {ring : KeyRing} :
    ofRing ring kid = .ok store ↔ store.ring = ring ∧ store.activeKid = kid := by
  constructor
  · intro chosen
    unfold ofRing at chosen
    split at chosen
    · cases chosen
    split at chosen
    · cases chosen
      exact ⟨rfl, rfl⟩
    · cases chosen
  · rintro ⟨rfl, rfl⟩
    rcases Option.isSome_iff_exists.mp store.active_signs with ⟨key, signs⟩
    rcases Option.bind_eq_some_iff.mp signs with ⟨entry, found, signs⟩
    rcases ofRing_of_find? found (Option.isSome_of_eq_some signs) with ⟨same, chosen, ring, active⟩
    rw [chosen]
    rcases same with ⟨_, _, _⟩
    cases ring
    cases active
    rfl

theorem exists_withActive_iff :
    (∃ next, store.withActive kid = .ok next) ↔ store.canSign kid = true := by
  constructor
  · rintro ⟨next, chosen⟩
    rcases ofRing_eq_ok_iff.mp chosen with ⟨ring, active⟩
    have signs := next.active_signs
    rwa [ring, active] at signs
  · intro signs
    exact ⟨⟨store.ring, kid, signs⟩, ofRing_eq_ok_iff.mpr ⟨rfl, rfl⟩⟩

theorem activeKid_of_ofPems {pems : List (String × List UInt8)}
    (loaded : ofPems pems kid = .ok store) : store.activeKid = kid := by
  unfold ofPems at loaded
  split at loaded
  · cases loaded
  · exact (ofRing_eq_ok_iff.mp loaded).2

end KeyStore

namespace Authenticator

variable {initial current next : Authenticator} {kid : String}

/-! ## One rotation -/

/-- Two authenticators with the same keys, of which different ones may be active. -/
structure Shares (current initial : Authenticator) : Prop where
  ring : current.keys.ring = initial.keys.ring
  issuer : current.issuer = initial.issuer
  lifetime : current.lifetime = initial.lifetime

namespace Shares

theorem refl (authenticator : Authenticator) : authenticator.Shares authenticator :=
  ⟨rfl, rfl, rfl⟩

theorem trans (after : next.Shares current) (before : current.Shares initial) :
    next.Shares initial where
  ring := after.ring.trans before.ring
  issuer := after.issuer.trans before.issuer
  lifetime := after.lifetime.trans before.lifetime

theorem canSign (shares : current.Shares initial) (kid : String) :
    current.keys.canSign kid = initial.keys.canSign kid := by
  rw [KeyStore.canSign, shares.ring, KeyStore.canSign]

theorem signing (shares : current.Shares initial) (kid : String) :
    current.keys.signing kid = initial.keys.signing kid := by
  rw [KeyStore.signing, shares.ring, KeyStore.signing]

theorem verifying (shares : current.Shares initial) (kid : String) :
    current.keys.verifying kid = initial.keys.verifying kid := by
  rw [KeyStore.verifying, shares.ring, KeyStore.verifying]

theorem authenticate (shares : current.Shares initial) (header : Option String) (now : Instant) :
    current.authenticate header now = initial.authenticate header now := by
  simp only [Authenticator.authenticate, shares.verifying, shares.issuer]

theorem claimsFor (shares : current.Shares initial) (principal : Principal) (now : Instant) :
    current.claimsFor principal now = initial.claimsFor principal now := by
  rw [Authenticator.claimsFor, shares.issuer, shares.lifetime, Authenticator.claimsFor]

end Shares

theorem of_rotate (rotated : current.rotate kid = .ok next) :
    next.Shares current ∧ next.activeKid = kid := by
  rcases of_map rotated with ⟨keys, chosen, rfl⟩
  rcases KeyStore.ofRing_eq_ok_iff.mp chosen with ⟨ring, active⟩
  exact ⟨⟨ring, rfl, rfl⟩, active⟩

theorem exists_rotate_iff :
    (∃ next, current.rotate kid = .ok next) ↔ current.keys.canSign kid = true := by
  rw [← KeyStore.exists_withActive_iff]
  constructor
  · rintro ⟨next, rotated⟩
    rcases of_map rotated with ⟨keys, chosen, -⟩
    exact ⟨keys, chosen⟩
  · rintro ⟨keys, chosen⟩
    exact ⟨{ current with keys }, by rw [rotate, chosen]; rfl⟩

theorem issue_activeKid_ne (authenticator : Authenticator) (claims : Claims) (kid : String) :
    authenticator.issue authenticator.activeKid claims ≠ .error (.keyNotFound kid) := by
  rcases Option.isSome_iff_exists.mp authenticator.keys.active_signs with ⟨key, signs⟩
  have found : authenticator.keys.signing authenticator.activeKid = .ok key := by
    simp only [KeyStore.signing, activeKid, signs]
  rw [issue, found]
  simp only [Token.encode]
  split <;> simp

theorem signingKid_of_issue {claims : Claims} {token : String}
    (issued : current.issue kid claims = .ok token) : Token.signingKid token = .ok kid := by
  rcases of_issue issued with ⟨entry, key, -, -, encoded⟩
  exact Token.signingKid_encode encoded

/-! ## Any number of them -/

/-- The authenticator in use after a rotation was tried. One that fails leaves it as it was. -/
def tryRotate (current : Authenticator) (kid : String) : Authenticator :=
  match current.rotate kid with
  | .ok next => next
  | .error _ => current

def rotateAll (initial : Authenticator) (kids : List String) : Authenticator :=
  kids.foldl tryRotate initial

theorem tryRotate_of_ok (rotated : current.rotate kid = .ok next) :
    current.tryRotate kid = next := by
  rw [tryRotate, rotated]

theorem tryRotate_of_error {error : KeyError} (refused : current.rotate kid = .error error) :
    current.tryRotate kid = current := by
  rw [tryRotate, refused]

theorem shares_tryRotate (current : Authenticator) (kid : String) :
    (current.tryRotate kid).Shares current := by
  cases rotated : current.rotate kid with
  | ok next =>
      rw [tryRotate_of_ok rotated]
      exact (of_rotate rotated).1
  | error error =>
      rw [tryRotate_of_error rotated]
      exact .refl current

theorem activeKid_tryRotate (current : Authenticator) (kid : String) :
    (current.tryRotate kid).activeKid =
      if current.keys.canSign kid then kid else current.activeKid := by
  cases rotated : current.rotate kid with
  | ok next =>
      rw [tryRotate_of_ok rotated, if_pos (exists_rotate_iff.mp ⟨next, rotated⟩)]
      exact (of_rotate rotated).2
  | error error =>
      have cannot : current.keys.canSign kid ≠ true := by
        intro signs
        rcases exists_rotate_iff.mpr signs with ⟨next, succeeded⟩
        cases rotated.symm.trans succeeded
      rw [tryRotate_of_error rotated, if_neg cannot]

theorem rotateAll_concat (initial : Authenticator) (kids : List String) (kid : String) :
    initial.rotateAll (kids ++ [kid]) = (initial.rotateAll kids).tryRotate kid :=
  List.foldl_concat ..

theorem shares_rotateAll (initial : Authenticator) (kids : List String) :
    (initial.rotateAll kids).Shares initial := by
  induction kids using List.reverseRecOn with
  | nil => exact .refl initial
  | append_singleton kids kid induction =>
      rw [rotateAll_concat]
      exact (shares_tryRotate _ kid).trans induction

theorem activeKid_rotateAll (initial : Authenticator) (kids : List String) :
    (initial.rotateAll kids).activeKid =
      ((kids.filter initial.keys.canSign).getLast?).getD initial.activeKid := by
  -- The last request decides if its key can sign; if not, what came before does.
  induction kids using List.reverseRecOn with
  | nil => rfl
  | append_singleton kids kid induction =>
      rw [rotateAll_concat, activeKid_tryRotate, (shares_rotateAll initial kids).canSign,
        List.filter_append]
      cases signs : initial.keys.canSign kid with
      | true => simp [signs]
      | false => simp [signs, induction]

/-- Rotation breaks nothing. After any attempts to rotate the active key is the last one that was
asked for with success; it is loaded and signs; and but for that the authenticator answers all
questions as it did when its keys were loaded. -/
theorem rotation_breaks_nothing {pems : List (String × List UInt8)} {first : String}
    (loaded : KeyStore.ofPems pems first = .ok initial.keys) (kids : List String)
    (reached : initial.rotateAll kids = current) :
    current.activeKid = ((kids.filter initial.keys.canSign).getLast?).getD first ∧
    (∃ entry, current.keys.ring.find? current.activeKid = some entry ∧
      entry.signing.isSome = true) ∧
    (∀ claims kid, current.issue current.activeKid claims ≠ .error (.keyNotFound kid)) ∧
    (∀ claims token, current.issue current.activeKid claims = .ok token →
      Token.signingKid token = .ok current.activeKid) ∧
    current.keys.kids = initial.keys.kids ∧
    (∀ kid, current.keys.signing kid = initial.keys.signing kid) ∧
    (∀ kid, current.keys.verifying kid = initial.keys.verifying kid) ∧
    (∀ header now, current.authenticate header now = initial.authenticate header now) ∧
    (∀ principal now, current.claimsFor principal now = initial.claimsFor principal now) ∧
    (∀ kid, (∃ next, current.rotate kid = .ok next) ↔
      ∃ entry, initial.keys.ring.find? kid = some entry ∧ entry.signing.isSome = true) ∧
    (∀ kid next, current.rotate kid = .ok next →
      next = initial.rotateAll (kids ++ [kid]) ∧ next.activeKid = kid ∧
        ∀ claims token, next.issue next.activeKid claims = .ok token →
          Token.signingKid token = .ok kid) := by
  have shares : current.Shares initial := reached ▸ shares_rotateAll initial kids
  have active : initial.activeKid = first := KeyStore.activeKid_of_ofPems loaded
  refine ⟨?_, KeyStore.canSign_iff.mp current.keys.active_signs, current.issue_activeKid_ne,
    fun claims token issued => signingKid_of_issue issued, ?_, shares.signing, shares.verifying,
    shares.authenticate, shares.claimsFor, fun kid => ?_, fun kid next rotated => ?_⟩
  · rw [← reached, activeKid_rotateAll, active]
  · rw [KeyStore.kids, shares.ring, KeyStore.kids]
  · rw [exists_rotate_iff, shares.canSign, KeyStore.canSign_iff]
  · have isActive := (of_rotate rotated).2
    refine ⟨?_, isActive, fun claims token issued => ?_⟩
    · rw [rotateAll_concat, reached, tryRotate_of_ok rotated]
    · rw [isActive] at issued
      exact signingKid_of_issue issued

end Authenticator

/-! ## Two keys -/

theorem KeyStore.ofPems_pair {first second : String} (other : second ≠ first) {bytes : List UInt8}
    {entry : KeyEntry} (read : ∀ kid, KeyEntry.read kid bytes = .ok entry)
    (signs : entry.signing.isSome) :
    ∃ store, ofPems [(first, bytes), (second, bytes)] first = .ok store ∧
      store.ring.entries = [(second, entry), (first, entry)] ∧ store.activeKid = first := by
  have added : ∃ ring, KeyRing.empty.addAll [(first, bytes), (second, bytes)] = .ok ring ∧
      ring.entries = [(second, entry), (first, entry)] := by
    simp [KeyRing.addAll, read, KeyRing.insert?, KeyRing.empty, other]
  rcases added with ⟨ring, added, entries⟩
  have found : ring.find? first = some entry := by
    simp [KeyRing.find?, entries, List.lookup_cons, beq_false_of_ne other.symm]
  rcases ofRing_of_find? found signs with ⟨store, chosen, same, active⟩
  refine ⟨store, ?_, by rw [same, entries], active⟩
  rw [ofPems, added]
  exact chosen

def KeyStore.samplePems : List (String × List UInt8) :=
  [("k", Pem.armour "RSA PRIVATE KEY" Rsa.mersenneForm),
    ("l", Pem.armour "RSA PRIVATE KEY" Rsa.mersenneForm)]

theorem Authenticator.rotation_breaks_nothing_sample :
    ∃ initial : Authenticator, KeyStore.ofPems KeyStore.samplePems "k" = .ok initial.keys ∧
      initial.activeKid = "k" ∧ (initial.rotateAll ["l", "m"]).activeKid = "l" ∧
      ∀ header now, (initial.rotateAll ["l", "m"]).authenticate header now =
        initial.authenticate header now := by
  rcases KeyStore.ofPems_pair (show "l" ≠ "k" by decide) KeyEntry.read_mersenneForm rfl with
    ⟨keys, loaded, entries, first⟩
  let initial : Authenticator := ⟨keys, "i", .longest⟩
  have fromFiles : KeyStore.ofPems KeyStore.samplePems "k" = .ok initial.keys := loaded
  rcases rotation_breaks_nothing fromFiles ["l", "m"] rfl with
    ⟨active, -, -, -, -, -, -, same, -⟩
  refine ⟨initial, fromFiles, first, ?_, same⟩
  have second : keys.canSign "l" = true := by
    rw [KeyStore.canSign, KeyRing.find?, entries]
    rfl
  have third : keys.canSign "m" = false := by
    rw [KeyStore.canSign, KeyRing.find?, entries]
    rfl
  simp [active, initial, second, third]

end AuthServer
