import AuthServer.Keys.Folder
import AuthServer.Proofs.Crypto.Rsa
import AuthServer.Proofs.Encoding.Pem

/-!
A folder with one key in it, which is found, read and chosen.
-/

namespace AuthServer

theorem KeyEntry.read_armour {contents : List UInt8} {key : Rsa.PrivateKey} (kid : String)
    (some : contents ≠ []) (whole : contents.length % 3 = 0)
    (form : Rsa.PrivateKey.ofPkcs1 contents = .some key) :
    read kid (Pem.armour "RSA PRIVATE KEY" contents) = .ok (ofPrivate key) := by
  have block := Pem.read_armour "RSA PRIVATE KEY" (by decide) (by decide +kernel) some whole
  simp only [read, block, ofPem, form, Option.map_some, Option.elim_some]

namespace KeyStore

variable {kid : String} {entry : KeyEntry}

theorem ofRing_of_find? {ring : KeyRing} (found : ring.find? kid = some entry)
    (signs : entry.signing.isSome) :
    ∃ store, ofRing ring kid = .ok store ∧ store.ring = ring ∧ store.activeKid = kid := by
  unfold ofRing
  split
  · rename_i missing
    rw [found] at missing
    cases missing
  · rename_i other same
    rw [found] at same
    cases same
    rw [dif_pos signs]
    exact ⟨_, rfl, rfl, rfl⟩

theorem ofPems_single {bytes : List UInt8} (read : KeyEntry.read kid bytes = .ok entry)
    (signs : entry.signing.isSome) :
    ∃ store, ofPems [(kid, bytes)] kid = .ok store ∧ store.ring.find? kid = some entry ∧
      store.activeKid = kid := by
  have found : KeyRing.find? ⟨[(kid, entry)], by simp⟩ kid = some entry := by
    simp [KeyRing.find?]
  rcases ofRing_of_find? found signs with ⟨store, chosen, ring, active⟩
  refine ⟨store, ?_, by rw [ring, found], active⟩
  simpa [ofPems, KeyRing.addAll, read, KeyRing.insert?, KeyRing.empty] using chosen

end KeyStore

namespace FileTree

theorem list_single {name contents : List UInt8} (top : parent name = [])
    (named : 0 < name.length) :
    list ⟨[(name, .file contents)]⟩ [] = .ok [(name, .file contents)] := by
  simp [list, top, named, linkLimit, resolve]

end FileTree

theorem KeyFolder.load_single (name : List UInt8) {contents : List UInt8} {kid : String}
    {entry : KeyEntry} (top : FileTree.parent name = []) (named : 0 < name.length)
    (isKey : kidOf name = some kid)
    (read : KeyEntry.read kid contents = .ok entry) (signs : entry.signing.isSome)
    (path : String) :
    ∃ store, (∃ events, load ⟨[(name, .file contents)]⟩ [] path kid = .ok (store, events)) ∧
      store.ring.find? kid = some entry ∧ store.activeKid = kid := by
  rcases KeyStore.ofPems_single read signs with ⟨store, chosen, found, active⟩
  have isPem : pems path [(name, .file contents)] = .ok [(kid, contents)] := by
    simp [pems, isKey, Except.map]
  refine ⟨store, ?_, found, active⟩
  simp only [load, FileTree.list_single top named, isPem, chosen]
  exact ⟨_, rfl⟩

namespace Rsa

/-- The sample key in its own form. The numbers at the end are not needed. -/
def mersenneForm : List UInt8 :=
  [0x30, 0x82, 0x01, 0x10, 0x02, 0x01, 0x00] ++
    [0x02, 0x52, 0x00] ++ toBytes mersenneKey.publicKey.modulus 81 ++
    [0x02, 0x03, 0x01, 0x00, 0x01] ++
    [0x02, 0x51] ++ toBytes mersenneKey.secret 81 ++
    [0x02, 0x42] ++ toBytes mersenneKey.firstPrime 66 ++
    [0x02, 0x10] ++ toBytes mersenneKey.secondPrime 16 ++
    [0x02, 0x01, 0x00, 0x02, 0x01, 0x00, 0x02, 0x03, 0x01, 0x00, 0x00]

theorem ofPkcs1_mersenneForm : PrivateKey.ofPkcs1 mersenneForm = some mersenneKey := by
  decide +kernel

end Rsa

theorem KeyEntry.read_mersenneForm (kid : String) :
    read kid (Pem.armour "RSA PRIVATE KEY" Rsa.mersenneForm) = .ok (ofPrivate Rsa.mersenneKey) :=
  read_armour kid (by simp [Rsa.mersenneForm]) (by decide +kernel) Rsa.ofPkcs1_mersenneForm

end AuthServer
