import AuthServer.Keys.Entry

/-!
Key stores: keys under distinct ids, one of which is active and can sign.
-/

namespace AuthServer

structure KeyRing where
  entries : List (String × KeyEntry)
  distinct : (entries.map Prod.fst).Nodup

namespace KeyRing

def empty : KeyRing := ⟨[], .nil⟩

def find? (ring : KeyRing) (kid : String) : Option KeyEntry :=
  ring.entries.lookup kid

def insert? (ring : KeyRing) (kid : String) (entry : KeyEntry) : Option KeyRing :=
  if fresh : kid ∈ ring.entries.map Prod.fst then none
  else some ⟨(kid, entry) :: ring.entries, List.nodup_cons.mpr ⟨fresh, ring.distinct⟩⟩

def kids (ring : KeyRing) : List String :=
  (ring.entries.map Prod.fst).mergeSort (fun left right => decide (left ≤ right))

/-- Add the keys of some files, stopping at the first that cannot be read or repeats an id. -/
def addAll (ring : KeyRing) : List (String × List UInt8) → Except KeyError KeyRing
  | [] => .ok ring
  | (kid, bytes) :: rest =>
      match KeyEntry.read kid bytes with
      | .error error => .error error
      | .ok entry =>
          match ring.insert? kid entry with
          | none => .error (.duplicateKid kid)
          | some ring => ring.addAll rest

end KeyRing

/-- A ring of keys with the id of the one that signs new tokens. -/
structure KeyStore where
  ring : KeyRing
  activeKid : String
  active_signs : ((ring.find? activeKid).bind KeyEntry.signing).isSome

namespace KeyStore

def ofRing (ring : KeyRing) (kid : String) : Except KeyError KeyStore :=
  match found : ring.find? kid with
  | none => .error (.activeMissing kid)
  | some entry =>
      if signs : entry.signing.isSome then .ok ⟨ring, kid, by simpa [found] using signs⟩
      else .error (.activeNotSigning kid)

def ofPems (pems : List (String × List UInt8)) (activeKid : String) : Except KeyError KeyStore :=
  match KeyRing.empty.addAll pems with
  | .error error => .error error
  | .ok ring => ofRing ring activeKid

def withActive (store : KeyStore) (kid : String) : Except KeyError KeyStore :=
  ofRing store.ring kid

def kids (store : KeyStore) : List String :=
  store.ring.kids

def signing (store : KeyStore) (kid : String) : Except KeyError Rsa.PrivateKey :=
  match (store.ring.find? kid).bind KeyEntry.signing with
  | some key => .ok key
  | none => .error (.notFound kid)

def verifying (store : KeyStore) (kid : String) : Except KeyError Rsa.PublicKey :=
  match store.ring.find? kid with
  | some entry => .ok entry.verifying
  | none => .error (.notFound kid)

def redacted (store : KeyStore) : String :=
  "KeyStore \x7b kids: " ++ Text.quoteAll store.kids ++ ", active_kid: " ++
    Text.quote store.activeKid ++ " \x7d"

end KeyStore

end AuthServer
